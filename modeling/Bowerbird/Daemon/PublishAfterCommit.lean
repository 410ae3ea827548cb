import Bowerbird.Daemon.System

namespace Bowerbird.Daemon

open Protocol Foundation Projection

/-! Publication after commit, for the whole writing side of the daemon. -/

namespace System

/-- A call that fails before its transaction, in the pool or at the clock or by
the guard on lifecycle kinds, does not reach the store. -/
theorem refuse_store {system next : System} {task : Nat} {error : Error}
    {out : List SystemSeen}
    (taken : system.step (.refuse task error) = some (next, out)) :
    next.store = system.store ∧ out = [] := by
  obtain ⟨_, replied, rfl⟩ := refuse_cases taken
  obtain ⟨_, _, _, _, _, _, _, rfl⟩ := reply_cases replied
  exact ⟨rfl, rfl⟩

/-- Whatever the tasks and however they interleave and fail. -/
theorem publishes_after_commit {ok : System → SystemLabel → Prop} {db : Db}
    {hub : List BroadcastEnvelope} {final : System} {seen : List SystemSeen}
    (run : machine.Run ok (initial db hub) final seen)
    (wellFormed : db.WellFormed) :
    PublishesAfterCommit (initial db hub).store final.store
        (seen.flatMap storeSeen) ∧
      ∀ middle before, machine.Run ok (initial db hub) middle before →
        ∀ task error next out,
          middle.step (.refuse task error) = some (next, out) →
          next.store = middle.store ∧ out = [] := by
  constructor
  · have stored := run_store run (sound_initial (fun _ => True) db hub)
      fun _ _ _ _ _ => trivial
    exact (ledger_of_run stored wellFormed rfl).publishesAfterCommit wellFormed
  · intro middle before _ task error next out taken
    exact refuse_store taken

/-- A hook that commits, one that fails at its upsert, and a probe that ends the
session of the first. -/
def hookFailProbe : List SystemLabel :=
  [.spawn (.hook (bareHook "a" .preToolUse none)), .begin 0 1000,
    .transact FaultPlan.none, .finish,
    .spawn (.hook (bareHook "b" .stop none)), .begin 1 2000,
    .transact (fun statement => statement == 2), .finish,
    .spawn .probe, .select 2, .clock 2 (.ok 3000), .cancelled 2 false,
    .begin 2 3001, .transact FaultPlan.none, .finish]

theorem publishes_after_commit_hookFailProbe :
    ∃ (final : System) (seen : List SystemSeen),
      ((published (seen.flatMap storeSeen)).length = 4 ∧
        (finishes (seen.flatMap storeSeen)).length = 3) ∧
      PublishesAfterCommit (initial Db.empty []).store final.store
        (seen.flatMap storeSeen) := by
  have ⟨final, seen, run, checked⟩ := Machine.exec_check
    (machine.execMeets_true (initial Db.empty []) hookFailProbe)
    (fun result : System × List SystemSeen =>
      decide ((published (result.2.flatMap storeSeen)).length = 4 ∧
        (finishes (result.2.flatMap storeSeen)).length = 3))
    (by decide)
  exact ⟨final, seen, of_decide_eq_true checked,
    (publishes_after_commit run Db.wellFormed_empty).1⟩

end System

end Bowerbird.Daemon
