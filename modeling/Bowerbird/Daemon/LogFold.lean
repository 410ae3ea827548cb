import Bowerbird.Daemon.System
import Bowerbird.Projection.Rebuild

namespace Bowerbird.Daemon

open Protocol Foundation Projection Adapter

/-! The projections are the fold of the log, and the log alone restores them. -/

variable (parseValue : String → Option Json.Value)

/-- Only typed envelopes come in, as `normalize_ok` and `replayEnvelope_typed`
have it of the two ways in. -/
def TypedJobs (_ : System) : SystemLabel → Prop
  | .spawn job => ∀ envelope ∈ job.envelope?, Typed parseValue envelope
  | _ => True

instance (system : System) (label : SystemLabel) :
    Decidable (TypedJobs parseValue system label) := by
  cases label <;> unfold TypedJobs <;> infer_instance

/-- What holds of a store whose requests are typed: the fold, and typed requests
in flight. -/
structure StoreFolds (store : Store Nat) : Prop where
  folds : FoldsLog parseValue store.db
  typed : ∀ flight, store.inFlight = some flight →
    flight.request.TypedIn parseValue

variable {parseValue}

theorem asked_typed {request : WriteRequest}
    (asked : System.Asked (Typed parseValue) request) :
    request.TypedIn parseValue := by
  cases request with
  | event envelope precondition =>
      cases precondition with
      | none => exact asked
      | some precondition =>
          intro notification
          rw [asked.1] at notification
          cases notification
  | recordingStarted => exact trivial
  | recordingEnded recordingSessionId => exact trivial

theorem storeFolds_of_run {start final : Store Nat}
    {seen : List (StoreSeen Nat)}
    (run : (Store.machine Nat).Run (System.StoreAsked (Typed parseValue))
      start final seen)
    (folds : FoldsLog parseValue start.db) (idle : start.inFlight = none) :
    StoreFolds parseValue final := by
  refine run.invariant (fun store _ => StoreFolds parseValue store)
    ⟨folds, by simp [idle]⟩ ?_
  intro middle next seen out label _ holds asked taken
  cases label with
  | begin owner request nowMs =>
      obtain ⟨_, _, _, rfl⟩ := Store.begin_cases taken
      refine ⟨holds.folds, ?_⟩
      rintro _ ⟨rfl⟩
      exact asked_typed asked
  | transact faults =>
      obtain ⟨flight, busy, _, ⟨result, db, outcome, _, _, rfl⟩ |
        ⟨_, _, _, _, rfl⟩⟩ := Store.transact_cases taken
      · have typed := holds.typed flight busy
        refine ⟨holds.folds.appends typed
          (WriteRequest.outcome_appends (by rw [outcome])), ?_⟩
        rintro _ ⟨rfl⟩
        exact typed
      · refine ⟨holds.folds, ?_⟩
        rintro _ ⟨rfl⟩
        exact holds.typed flight busy
  | finish =>
      obtain ⟨_, _, _, _, _, rfl⟩ := Store.finish_cases taken
      refine ⟨holds.folds, ?_⟩
      rintro _ ⟨⟩

namespace System

theorem projections_fold_log {hub : List BroadcastEnvelope} {final : System}
    {seen : List SystemSeen}
    (run : machine.Run (TypedJobs parseValue) (initial Db.empty hub) final
      seen) :
    FoldsLog parseValue final.store.db ∧
      ∀ keep faults,
        let deleted := deleteProjections keep final.store.db
        let rebuild := rebuildMissingProjections parseValue
        ((∃ error, Tx.run faults rebuild deleted = (.error error, deleted)) ∨
          ∃ rebuilt next, Tx.run faults rebuild deleted = (.ok rebuilt, next) ∧
            Restores final.store.db deleted next) ∧
        ∃ rebuilt next,
          Tx.run FaultPlan.none rebuild deleted = (.ok rebuilt, next) ∧
            Restores final.store.db deleted next := by
  have stored := run_store run (sound_initial (Typed parseValue) Db.empty hub)
    fun _ _ typed => typed
  have folds := (storeFolds_of_run stored (foldsLog_empty parseValue)
    rfl).folds
  have wellFormed := (ledger_of_run stored Db.wellFormed_empty
    rfl).chained.wellFormed Db.wellFormed_empty
  refine ⟨folds, fun keep faults => ?_⟩
  intro deleted rebuild
  have settles := rebuildMissingProjections_settles parseValue
  have restores := folds.restores wellFormed keep
  refine ⟨?_, _, _, settles.run_none deleted, restores⟩
  rcases settles.run faults deleted with failed | done
  · exact .inl failed
  · exact .inr ⟨_, _, done, restores⟩

/-! A tool use, an idle prompt, and a probe that ends the session. -/

def idlePromptPayload : String :=
  "\x7b\"notification_type\":\"idle_prompt\"\x7d"

def parseIdlePrompt (text : String) : Option Json.Value :=
  if text = idlePromptPayload then
    some (.object [("notification_type", .string "idle_prompt")])
  else if text = emptyPayload then some (.object [])
  else none

def toolIdleProbe : List SystemLabel :=
  [.spawn (.hook (bareHook "a" .preToolUse none)), .begin 0 1000,
    .transact FaultPlan.none, .finish,
    .spawn (.hook { bareHook "a" .notification none with
      payload := idlePromptPayload, notificationType := some .idlePrompt }),
    .begin 1 2000, .transact FaultPlan.none, .finish,
    .spawn .probe, .select 2, .clock 2 (.ok 3000), .cancelled 2 false,
    .begin 2 3001, .transact FaultPlan.none, .finish]

theorem projections_fold_log_toolIdleProbe :
    ∃ final : System,
      (final.store.db.events.length = 3 ∧
        final.store.db.projections.length = 1) ∧
      FoldsLog parseIdlePrompt final.store.db := by
  have ⟨final, seen, run, checked⟩ := Machine.exec_check
    (show machine.execMeets (TypedJobs parseIdlePrompt) (initial Db.empty [])
      toolIdleProbe by decide)
    (fun result : System × List SystemSeen =>
      decide (result.1.store.db.events.length = 3 ∧
        result.1.store.db.projections.length = 1))
    (by decide)
  exact ⟨final, of_decide_eq_true checked, (projections_fold_log run).1⟩

end System

end Bowerbird.Daemon
