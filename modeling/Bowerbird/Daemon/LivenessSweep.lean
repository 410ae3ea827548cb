import Bowerbird.Daemon.Sweep

namespace Bowerbird.Daemon

open Protocol Foundation Projection

/-! A probe pass that nothing interrupts, against a system that answers by pid:
whom it ends, and whom it leaves alone. -/

/-- The pid is in range for the system call, and the system says that there is
such a process. -/
def Alive (os : Nat → KillResult) (pid : Nat) : Prop :=
  pid < 2 ^ 31 ∧ (os pid = .ok ∨ os pid = .eperm)

instance (os : Nat → KillResult) (pid : Nat) : Decidable (Alive os pid) :=
  inferInstanceAs (Decidable (_ ∧ _))

/-- A session that is not ended and has no process. -/
def deserted (os : Nat → KillResult) (row : Db.ProjectionRow) : Bool :=
  row.state.parse.any fun stored =>
    decide (stored.currentState ≠ .ended) &&
      !stored.lastPid.any fun pid => decide (Alive os pid)

section Probe

variable (around : Surroundings) (os : Nat → KillResult) {state : Sequential}

theorem isPidAlive_run (pid : Nat) :
    (isPidAlive pid).runWith (Sequential.probe around os) state =
      (decide (Alive os pid), state) := by
  unfold isPidAlive
  by_cases inRange : pid < 2 ^ 31
  · rw [if_pos inRange, kill, Program.query_bind, Program.runWith_ask,
      Sequential.probe]
    have asked : Alive os pid ↔ os pid = .ok ∨ os pid = .eperm :=
      and_iff_right inRange
    cases answer : os pid <;> simp [asked, answer]
  · have beyond : ¬ Alive os pid := fun alive => inRange alive.1
    rw [if_neg inRange, decide_eq_false beyond]
    rfl

theorem probeReason_run (state : Sequential) (lastPid : Option Nat) :
    ∃ reason, (probeReason lastPid).runWith (Sequential.probe around os)
      state = (if lastPid.any fun pid => decide (Alive os pid) then none
        else some reason, state) := by
  cases lastPid with
  | none => exact ⟨.noPidAtUpgrade, rfl⟩
  | some pid =>
      refine ⟨.pidDead, ?_⟩
      rw [probeReason, Program.runWith_bind, isPidAlive_run]
      by_cases alive : Alive os pid <;> simp [alive]

theorem probeRow_swept (observedAtMs : Int) {row : Db.ProjectionRow}
    (report : ProbeReport)
    (present : state.db.projection row.key = some row) :
    ∃ after next, (probeRow observedAtMs row report).runWith
        (Sequential.probe around os) state = (after, next) ∧
      Swept (if deserted os row then [row.key] else []) state.db next.db ∧
      after.emitted =
        report.emitted + (if deserted os row then 1 else 0) := by
  cases parsed : row.state.parse with
  | none =>
      refine ⟨report, state, ?_, ?_, ?_⟩
      · simp only [probeRow, parsed]
        rfl
      · simp only [deserted, parsed, Option.any_none, Bool.false_eq_true,
          if_false]
        exact Swept.refl _
      · simp [deserted, parsed]
  | some stored =>
      by_cases gone : stored.currentState = .ended
      · refine ⟨report, state, ?_, ?_, ?_⟩
        · simp only [probeRow, parsed, gone, if_true]
          rfl
        · simp only [deserted, parsed, Option.any_some, gone, ne_eq, not_true,
            decide_false, Bool.false_and, Bool.false_eq_true, if_false]
          exact Swept.refl _
        · simp [deserted, parsed, gone]
      · obtain ⟨reason, read⟩ :=
          probeReason_run around os state stored.lastPid
        cases there : stored.lastPid.any fun pid => decide (Alive os pid) with
        | true =>
            have spared : deserted os row = false := by
              simp only [deserted, parsed, Option.any_some, there,
                Bool.not_true, Bool.and_false]
            rw [there, if_pos rfl] at read
            refine ⟨report, state, ?_, ?_, ?_⟩
            · simp only [probeRow, parsed, gone, if_false, Program.runWith_bind,
                read]
              rfl
            · rw [spared]
              exact Swept.refl _
            · simp [spared]
        | false =>
            have doomed : deserted os row = true := by
              simp only [deserted, parsed, Option.any_some, there, gone, ne_eq,
                not_false_eq_true, decide_true, Bool.not_false, Bool.and_true]
            rw [there, if_neg Bool.false_ne_true] at read
            have alive : live state.db row.key stored :=
              ⟨stored_of_projection present parsed, gone⟩
            obtain ⟨eventId, next, ran, swept⟩ := handle_ends around alive
              reason observedAtMs
              {
                expectedCurrentState := stored.currentState
                expectedLastPid := stored.lastPid
                expectedLastEventAtMs := none }
              (by simp [WritePrecondition.admits])
            refine ⟨report.count (.ok (some eventId)), next, ?_, ?_, ?_⟩
            · simp only [probeRow, parsed, gone, if_false, Program.runWith_bind,
                read, writeIfStateMatches, writeInner, Program.query_bind,
                Program.runWith_ask, Sequential.probe, ran]
              rfl
            · rw [doomed]
              exact swept
            · simp [doomed, ProbeReport.count]

theorem probeRows_swept (state : Sequential) (observedAtMs : Int)
    (rows : List Db.ProjectionRow)
    (report : ProbeReport)
    (keyed : KeyedTable.Keyed Db.ProjectionRow.key rows)
    (present : Present rows state.db) :
    ∃ after next, (probeRows observedAtMs rows report).runWith
        (Sequential.probe around os) state = (after, next) ∧
      Swept (doomedKeys (deserted os) rows) state.db next.db ∧
      after.emitted =
        report.emitted + (doomedKeys (deserted os) rows).length := by
  induction rows generalizing state report with
  | nil => exact ⟨report, state, rfl, Swept.refl _, rfl⟩
  | cons row rest induction =>
      obtain ⟨middle, between, first, swept, counted⟩ := probeRow_swept around
        os observedAtMs report (present row List.mem_cons_self)
      obtain ⟨still, whole⟩ := Swept.cons keyed present swept
      obtain ⟨after, next, later, others, total⟩ :=
        induction between middle keyed.of_cons still
      refine ⟨after, next, ?_, whole _ others, ?_⟩
      · have unrolled : (probeRows observedAtMs (row :: rest) report).runWith
            (Sequential.probe around os) state =
              (probeRow observedAtMs row report >>= fun report =>
                probeRows observedAtMs rest report).runWith
                (Sequential.probe around os) state := rfl
        rw [unrolled, Program.runWith_bind, first]
        exact later
      · rw [total, counted, Nat.add_assoc]
        cases picked : deserted os row <;>
          simp [doomedKeys, picked, Nat.add_comm]

theorem probeOnce_swept (state : Sequential) (wellFormed : state.db.WellFormed) :
    ∃ report next, probeOnce.runWith (Sequential.probe around os) state =
        (.ok report, next) ∧
      Swept (doomedKeys (deserted os) state.db.selectNonSentinelSessions)
        state.db next.db ∧
      report.emitted = (doomedKeys (deserted os)
        state.db.selectNonSentinelSessions).length := by
  obtain ⟨present, keyed⟩ := present_select wellFormed
  obtain ⟨report, next, ran, swept, counted⟩ := probeRows_swept
    around os { state with asked := state.asked + 1 }
    (around.clock state.asked) _ ProbeReport.default keyed present
  refine ⟨report, next, ?_, swept, counted.trans (Nat.zero_add _)⟩
  have unrolled : probeOnce.runWith (Sequential.probe around os) state =
      (probeRows (around.clock state.asked) state.db.selectNonSentinelSessions
        ProbeReport.default >>= fun report => pure (Except.ok report)).runWith
        (Sequential.probe around os)
        { state with asked := state.asked + 1 } := rfl
  rw [unrolled, Program.runWith_bind, ran]
  rfl

end Probe

/-- A session that is there, and whose process is not. -/
def Deserted (os : Nat → KillResult) (db : Db) (key : SessionKey)
    (state : SessionState) : Prop :=
  key.isSentinel = false ∧ live db key state ∧
    ∀ pid, state.lastPid = some pid → ¬ Alive os pid

theorem mem_deserted {db : Db} (wellFormed : db.WellFormed)
    {os : Nat → KillResult} {key : SessionKey} :
    key ∈ doomedKeys (deserted os) db.selectNonSentinelSessions ↔
      ∃ state, Deserted os db key state := by
  rw [mem_doomedKeys]
  constructor
  · rintro ⟨row, member, doomed, rfl⟩
    obtain ⟨inside, user⟩ := Db.mem_selectNonSentinelSessions.mp member
    simp only [deserted, Option.any_eq_true, Bool.and_eq_true,
      decide_eq_true_eq, Bool.not_eq_true'] at doomed
    obtain ⟨state, parsed, alive, gone⟩ := doomed
    have found := KeyedTable.lookup_of_mem wellFormed.keyed inside
    refine ⟨state, ?_, ⟨stored_of_projection found parsed, alive⟩, ?_⟩
    · exact SessionKey.isSentinel_eq_false.mpr user
    · intro pid carried
      simpa [carried] using gone
  · rintro ⟨state, user, alive, gone⟩
    obtain ⟨row, member, rfl, json⟩ := stored_row alive.1
    refine ⟨row, Db.mem_selectNonSentinelSessions.mpr ⟨member, ?_⟩, ?_, rfl⟩
    · exact SessionKey.isSentinel_eq_false.mp user
    · simp only [deserted, json, Db.StateText.parse, Option.any_some,
        Bool.and_eq_true, decide_eq_true_eq, Bool.not_eq_true']
      refine ⟨alive.2, ?_⟩
      cases carried : state.lastPid with
      | none => rfl
      | some pid => simp [gone pid carried]

/-- What a pass has done, by the sessions that it found deserted. -/
structure Probed (os : Nat → KillResult) (db next : Db) (report : ProbeReport)
    (victims : List SessionKey) : Prop where
  nodup : victims.Nodup
  deserted : ∀ key, key ∈ victims ↔ ∃ state, Deserted os db key state
  emitted : report.emitted = victims.length
  alive : ∀ key state, key.isSentinel = false → live next key state →
    ∃ pid, state.lastPid = some pid ∧ Alive os pid
  ended : ∀ key state, Deserted os db key state →
    ∃ after row, next.stored key = some after ∧ after.currentState = .ended ∧
      after.lastPid = state.lastPid ∧ after.cwd = state.cwd ∧
      after.startedAt = state.startedAt ∧
      row.kind = Db.eventKindAsStr .sessionEnded ∧
      sessionLog next key = sessionLog db key ++ [row]
  others : ∀ key, key ∉ victims → next.projection key = db.projection key ∧
    sessionLog next key = sessionLog db key
  /-- The sessions that had ended, or have their process. -/
  kept : ∀ key state, db.stored key = some state →
    state.currentState = .ended ∨
      (∃ pid, state.lastPid = some pid ∧ Alive os pid) →
    next.projection key = db.projection key ∧
      sessionLog next key = sessionLog db key

theorem probed_of_swept {os : Nat → KillResult} {db next : Db}
    {report : ProbeReport} (wellFormed : db.WellFormed)
    (dated : ∀ row ∈ db.projections, Timestamped row)
    (swept : Swept (doomedKeys (deserted os) db.selectNonSentinelSessions) db
      next)
    (counted : report.emitted =
      (doomedKeys (deserted os) db.selectNonSentinelSessions).length) :
    Probed os db next report
      (doomedKeys (deserted os) db.selectNonSentinelSessions) where
  nodup := doomedKeys_nodup (present_select wellFormed).2
  deserted := fun key => mem_deserted wellFormed
  emitted := counted
  alive := by
    intro key state user alive
    by_cases doomed : key ∈
        doomedKeys (deserted os) db.selectNonSentinelSessions
    · obtain ⟨_, _, _, ended⟩ := swept.ended key doomed
      rw [alive.1] at ended
      exact absurd (Option.some.inj ended ▸ rfl) alive.2
    · by_contra gone
      apply doomed
      rw [mem_deserted wellFormed]
      refine ⟨state, user, ⟨?_, alive.2⟩, ?_⟩
      · rw [← swept.stored doomed]
        exact alive.1
      · intro pid carried there
        exact gone ⟨pid, carried, there⟩
  ended := by
    intro key state gone
    have doomed := (mem_deserted wellFormed).mpr ⟨state, gone⟩
    obtain ⟨before, time, was, ended⟩ := swept.ended key doomed
    obtain ⟨row, kind, log⟩ := swept.log_ended
      (doomedKeys_nodup (present_select wellFormed).2) doomed
    have same : before = state :=
      Option.some.inj (was.1.symm.trans gone.2.1.1)
    subst same
    obtain ⟨stored, member, _, json⟩ := stored_row was.1
    exact ⟨_, row, ended, rfl, endedState_lastPid _ _, endedState_cwd _ _,
      endedState_startedAt _ _ (dated stored member before json), kind, log⟩
  others := fun key spared => ⟨swept.others key spared, swept.log_spared spared⟩
  kept := by
    intro key state stored safe
    have spared : key ∉
        doomedKeys (deserted os) db.selectNonSentinelSessions := by
      intro doomed
      obtain ⟨before, _, alive, gone⟩ := (mem_deserted wellFormed).mp doomed
      have same : before = state :=
        Option.some.inj (alive.1.symm.trans stored)
      subst same
      rcases safe with ended | ⟨pid, carried, there⟩
      · exact alive.2 ended
      · exact gone pid carried there
    exact ⟨swept.others key spared, swept.log_spared spared⟩

/-- A pass ends the sessions without a process, by one event each, and leaves the
others alone; the next one finds nobody to end. -/
theorem probe_ends_the_deserted
    {ok : ProcessConfig → Process → ProcessLabel → Prop} {db : Db}
    (reached : Reached ok db) (around : Surroundings) (os : Nat → KillResult)
    (asked : Nat) :
    ∃ report next victims, probeOnce.runWith (Sequential.probe around os)
        { db, asked } = (.ok report, next) ∧
      Probed os db next.db report victims ∧
      ∃ again last, probeOnce.runWith (Sequential.probe around os) next =
          (.ok again, last) ∧
        last.db.events = next.db.events ∧ again.emitted = 0 := by
  obtain ⟨report, next, ran, swept, counted⟩ :=
    probeOnce_swept around os { db, asked } reached.wellFormed
  have probed := probed_of_swept reached.wellFormed reached.dated swept counted
  refine ⟨report, next, _, ran, probed, ?_⟩
  have formed : next.db.WellFormed := by
    have kept := Program.runWith_preserves (Sequential.probe around os)
      (fun state => state.db.WellFormed) (by
        intro op state wellFormed
        rw [probe_db]
        exact handle_wellFormed op wellFormed)
      probeOnce { db, asked } reached.wellFormed
    rw [ran] at kept
    exact kept
  obtain ⟨again, last, ran', swept', counted'⟩ :=
    probeOnce_swept around os next formed
  have nobody : doomedKeys (deserted os) next.db.selectNonSentinelSessions =
      [] := by
    refine List.eq_nil_iff_forall_not_mem.mpr fun key doomed => ?_
    obtain ⟨state, user, alive, gone⟩ := (mem_deserted formed).mp doomed
    obtain ⟨pid, carried, there⟩ := probed.alive key state user alive
    exact gone pid carried there
  rw [nobody] at swept' counted'
  exact ⟨again, last, ran', swept'.events_nil, counted'⟩

/-- A session that was replayed on a pid, and then a pass in a system without
processes. -/
theorem probe_ends_the_deserted_replayOnPid :
    ∃ db next report, report.emitted = 1 ∧
      Probed desertedOs db next report [⟨"claude", "b"⟩] := by
  have ⟨final, seen, run, checked⟩ := Machine.exec_check
    ((Process.machine (pidProcess 7)).execMeets_true
      (Process.boot (pidProcess 7).serde.parse FaultPlan.none Db.empty)
      replayOnPid)
    (fun result : Process × List ProcessSeen =>
      decide (doomedKeys (deserted desertedOs)
        result.1.system.store.db.selectNonSentinelSessions =
          [⟨"claude", "b"⟩]))
    (by decide)
  have reached : Reached (fun _ _ _ => True) final.system.store.db :=
    .run .empty run
  obtain ⟨report, next, victims, _, probed, _⟩ := probe_ends_the_deserted
    reached steady desertedOs 0
  have wellFormed := reached.wellFormed
  have only : ∀ key, key ∈ victims ↔ key ∈ [(⟨"claude", "b"⟩ : SessionKey)] := by
    intro key
    rw [probed.deserted, ← mem_deserted wellFormed, of_decide_eq_true checked]
  have one : victims = [⟨"claude", "b"⟩] := by
    have same := (List.perm_ext_iff_of_nodup probed.nodup (by simp)).mpr only
    exact List.perm_singleton.mp same
  subst one
  exact ⟨_, next.db, report, probed.emitted, probed⟩

end Bowerbird.Daemon
