import Bowerbird.Daemon.FrontDoors
import Bowerbird.Daemon.Supersession

namespace Bowerbird.Daemon

open Protocol Foundation Projection Ingest Api

/-! Pid zero is nobody's: `kill(0, 0)` asks after the caller's own process group,
which is always there.  A session on it would never end. -/

def NamesProcess (event : Event) : Prop :=
  event.pid ≠ some 0

instance : DecidablePred NamesProcess := fun event =>
  inferInstanceAs (Decidable (event.pid ≠ some 0))

def Named (envelope : EventEnvelope) : Prop :=
  envelope.pid ≠ some 0

def Mortal (row : Db.ProjectionRow) : Prop :=
  ∀ state, row.state = .json state → state.lastPid ≠ some 0

section Mortal

theorem transition_lastPid_ne_zero {prev : Option SessionState}
    {kind : EventKind} {notificationType : Option NotificationType}
    {pid : Option Nat} {cwd : Option String} {nowMs : Int}
    (named : pid ≠ some 0)
    (before : ∀ state, prev = some state → state.lastPid ≠ some 0) :
    (transition prev kind notificationType pid cwd nowMs).lastPid ≠
      some 0 := by
  rw [transition_lastPid]
  intro zero
  rcases Option.or_eq_some_iff.mp zero with own | ⟨_, carried⟩
  · exact named own
  · obtain ⟨state, found, kept⟩ := Option.bind_eq_some_iff.mp carried
    exact before state found kept

theorem named_passedOn : PassedOn Named Mortal where
  ends := by
    intro pins envelope precondition row _ mortal ended
    obtain ⟨_, _, stored, json, _, pid, _⟩ := ended
    rw [Named, pid]
    exact mortal stored json
  writes := by
    intro envelope db nowMs named mortal state json
    cases json
    apply transition_lastPid_ne_zero named
    intro prev stored
    obtain ⟨row, member, _, json⟩ := stored_row stored
    exact mortal row member prev json
  marks := by
    intro nowMs state json
    cases json

theorem replayRows_lastPid {parseValue : String → Option Json.Value}
    {rows : List Db.EventRow} {state after : Option SessionState}
    {last time : Int} (named : ∀ row ∈ rows, row.pid ≠ some 0)
    (before : ∀ prev, state = some prev → prev.lastPid ≠ some 0)
    (replayed : replayRows parseValue state last rows = some (after, time)) :
    ∀ next, after = some next → next.lastPid ≠ some 0 := by
  induction rows generalizing state last with
  | nil =>
      cases replayed
      exact before
  | cons row rest induction =>
      rw [replayRows] at replayed
      split at replayed
      · cases replayed
      · refine induction (fun other member => named other (by simp [member]))
          ?_ replayed
        rintro _ ⟨rfl⟩
        exact transition_lastPid_ne_zero (named row (by simp)) before

end Mortal

/-- No row of either table is on pid zero. -/
structure Nameable (db : Db) : Prop where
  wellFormed : db.WellFormed
  mortal : ∀ row ∈ db.projections, Mortal row
  named : ∀ row ∈ db.events, row.pid ≠ some 0

namespace Nameable

variable {db : Db} {parseValue : String → Option Json.Value}

theorem rebuilt (nameable : Nameable db) (keys : List SessionKey)
    (sourced : ∀ key ∈ keys, ∃ event ∈ db.events, event.key = key) :
    Nameable (rebuiltSessions parseValue keys 0 db).2 := by
  have wellFormed := rebuiltSessions_wellFormed parseValue 0
    nameable.wellFormed sourced
  obtain ⟨events, _, _, _, rows⟩ := rebuiltSessions_spec parseValue keys 0 db
  refine ⟨wellFormed, ?_, by rw [events]; exact nameable.named⟩
  intro row member state json
  have found := rows row.key
  rw [Db.projection, KeyedTable.lookup_of_mem wellFormed.keyed member] at found
  rcases Option.or_eq_some_iff.mp found.symm with before | ⟨_, added⟩
  · exact nameable.mortal row (KeyedTable.lookup_mem before) state json
  · split at added
    · unfold rebuiltRow at added
      split at added
      · rename_i last replayed
        rw [← Option.some.inj added] at json
        cases json
        refine replayRows_lastPid ?_ (by rintro _ ⟨⟩) replayed state rfl
        intro event inside
        exact nameable.named event (List.mem_filter.mp inside).1
      · cases added
    · cases added

theorem opened (nameable : Nameable db) (faults : FaultPlan) :
    Nameable (Process.opened parseValue faults db) := by
  rcases (rebuildMissingProjections_settles parseValue).run faults db with
    ⟨error, failed⟩ | done
  · rw [Process.opened, failed]
    exact nameable
  · rw [Process.opened, done]
    apply nameable.rebuilt
    intro key listed
    exact (mem_selectDistinctSessionsFromEvents.mp listed).2

/-- A run that replays nothing on pid zero leaves nothing on pid zero. -/
theorem run (nameable : Nameable db) {config : ProcessConfig}
    {faults : FaultPlan} {final : Process} {seen : List ProcessSeen}
    (ran : (Process.machine config).Run
      (Process.ReplaysOnly config NamesProcess)
      (Process.boot config.serde.parse faults db) final seen) :
    Nameable final.system.store.db := by
  have opened : Nameable (Process.opened config.serde.parse faults db) :=
    nameable.opened faults
  have lets : ∀ process label,
      Process.ReplaysOnly config NamesProcess process label →
        Process.Lets config Named process label := by
    intro process label only
    apply only.lets
    · intro received envelope judged zero
      obtain ⟨_, _, accepted⟩ := judge_ok judged
      exact (vet_pid accepted zero).1 rfl
    · intro event envelope named replayed
      obtain ⟨_, _, rfl⟩ := (Adapter.replayEnvelope_ok _).mp replayed
      exact named
  have flows := Process.flows_of_lets ran lets named_passedOn opened.mortal
  have ledger := Process.ledger_of_boot ran nameable.wellFormed
  refine ⟨ledger.chained.wellFormed opened.wellFormed, flows.rows, ?_⟩
  intro row member
  rw [ledger.chained.events, List.mem_append] at member
  rcases member with member | member
  · exact opened.named row member
  · obtain ⟨commit, inside, rfl⟩ := List.mem_map.mp member
    have good := flows.commits commit inside
    cases asked : commit.request with
    | event envelope precondition =>
        rw [asked] at good
        rw [Commit.row, asked]
        exact good
    | recordingStarted =>
        rw [Commit.row, asked]
        intro zero
        cases zero
    | recordingEnded recordingSessionId =>
        rw [Commit.row, asked]
        intro zero
        cases zero

end Nameable

/-! One probe pass that nothing interrupts, asking the system by pid. -/

def Sequential.probe (around : Surroundings) (os : Nat → KillResult) :
    (op : Op) → Sequential → op.Answer × Sequential
  | .kill pid, state => (os pid, state)
  | .isCancelled, state => (false, state)
  | .writeInner envelope precondition, state =>
      state.handle around (.writeInner envelope precondition)
  | .writeRecordingStarted, state => state.handle around .writeRecordingStarted
  | .writeRecordingEnded recordingSessionId, state =>
      state.handle around (.writeRecordingEnded recordingSessionId)
  | .selectNonSentinelSessions, state =>
      state.handle around .selectNonSentinelSessions
  | .currentUnixMillis, state => state.handle around .currentUnixMillis

def Sequential.probed (around : Surroundings) (os : Nat → KillResult)
    (state : Sequential) : Sequential :=
  (probeOnce.runWith (Sequential.probe around os) state).2

/-- The system answers by the one process of the pid, but for pid zero. -/
structure Truthful (alive : Nat → Prop) (os : Nat → KillResult) : Prop where
  group : os 0 = .ok
  there : ∀ pid, pid ≠ 0 → alive pid → os pid = .ok ∨ os pid = .eperm
  gone : ∀ pid, pid ≠ 0 → ¬ alive pid → os pid = .esrch

/-- Whatever pid the state carries, the probe takes it for dead. -/
def Doomed (os : Nat → KillResult) (state : SessionState) : Prop :=
  ∀ pid, state.lastPid = some pid → os pid = .esrch

section Probe

variable {around : Surroundings} {os : Nat → KillResult}
variable {state : Sequential}

theorem probe_db (op : Op) :
    (Sequential.probe around os op state).2.db =
      (Sequential.handle around op state).2.db := by
  cases op <;> rfl

theorem probe_quiet {Result : Type} {program : Async Result} {pins : Bool}
    {memory : Option (List Db.ProjectionRow)}
    (obeys : program.Obeys (scanMonitor none pins) (fun _ _ => True) memory) :
    Quiet state.db (program.runWith (Sequential.probe around os) state).2.db := by
  refine Program.Obeys.runWith (scanMonitor none pins)
    (fun before after : Sequential => Quiet before.db after.db) ?_ ?_ ?_ obeys
  · intro state
    exact Quiet.refl state.db
  · intro first second third early late
    exact Quiet.trans early late
  · intro memory op state allowed
    rw [probe_db]
    exact handle_quiet allowed

/-- A write does not take a session its state. -/
theorem transact_kept (request : WriteRequest) {key : SessionKey}
    (user : key.isSentinel = false)
    (present : (state.db.stored key).isSome = true) :
    ((state.transact around request).2.db.stored key).isSome = true := by
  rw [transact_eq]
  dsimp only
  cases outcome : (request.outcome (around.clock state.asked) state.db).2 with
  | none => exact present
  | some next =>
      have appends := WriteRequest.outcome_appends outcome
      rw [Option.getD_some]
      by_cases own : (request.columns (around.clock state.asked)).key = key
      · rw [← own, appends.stored_self]
        cases request with
        | event envelope precondition => rfl
        | recordingStarted => rw [← own] at user; cases user
        | recordingEnded recordingSessionId => rw [← own] at user; cases user
      · rw [appends.stored_ne own]
        exact present

theorem handle_kept (op : Op) {key : SessionKey}
    (user : key.isSentinel = false)
    (present : (state.db.stored key).isSome = true) :
    ((Sequential.handle around op state).2.db.stored key).isSome = true := by
  cases op with
  | writeInner envelope precondition =>
      by_cases recording : envelope.kind.isRecording = true
      · simpa [Sequential.handle, recording] using present
      · rw [handle_write envelope precondition (by simpa using recording)]
        exact transact_kept _ user present
  | writeRecordingStarted => exact transact_kept .recordingStarted user present
  | writeRecordingEnded recordingSessionId =>
      exact transact_kept (.recordingEnded recordingSessionId) user present
  | selectNonSentinelSessions | currentUnixMillis | kill | isCancelled =>
      exact present

theorem probed_kept {key : SessionKey} (user : key.isSentinel = false)
    (present : (state.db.stored key).isSome = true) :
    ((state.probed around os).db.stored key).isSome = true := by
  refine Program.Obeys.runWith (scanMonitor none false)
    (fun before after : Sequential => (before.db.stored key).isSome = true →
      (after.db.stored key).isSome = true) ?_ ?_ ?_ probeOnce_obeys present
  · intro state present
    exact present
  · intro first second third early late present
    exact late (early present)
  · intro memory op state _ present
    rw [probe_db]
    exact handle_kept op user present

theorem isPidAlive_gone {pid : Nat} (gone : os pid = .esrch) :
    (isPidAlive pid).runWith (Sequential.probe around os) state =
      (false, state) := by
  unfold isPidAlive
  by_cases inRange : pid < 2 ^ 31
  · rw [if_pos inRange, kill, Program.query_bind, Program.runWith_ask,
      Sequential.probe, gone]
    rfl
  · rw [if_neg inRange]
    rfl

variable (around state) in
theorem probeReason_doomed {stored : SessionState} (doomed : Doomed os stored) :
    ∃ reason, (probeReason stored.lastPid).runWith
      (Sequential.probe around os) state = (some reason, state) := by
  cases carried : stored.lastPid with
  | none => exact ⟨.noPidAtUpgrade, rfl⟩
  | some pid =>
      refine ⟨.pidDead, ?_⟩
      rw [probeReason, Program.runWith_bind,
        isPidAlive_gone (doomed pid carried)]
      rfl

/-- What a pass still has to end: the doomed sessions, each with its row among
the rows to come. -/
def Waiting (os : Nat → KillResult) (rows : List Db.ProjectionRow)
    (state : Sequential) : Prop :=
  ∀ key after, live state.db key after → key.isSentinel = false →
    Doomed os after → ∃ row ∈ rows, row.key = key ∧ row.state = .json after

variable (around) in
theorem probeRow_waiting (observedAtMs : Int) (row : Db.ProjectionRow)
    (rest : List Db.ProjectionRow) (report : ProbeReport)
    (waiting : Waiting os (row :: rest) state) :
    Waiting os rest ((probeRow observedAtMs row report).runWith
      (Sequential.probe around os) state).2 := by
  intro key after alive user doomed
  have obeys : (probeRow observedAtMs row report).Obeys
      (scanMonitor none false) (fun after _ => after = some [row])
      (some [row]) := probeRow_obeys (List.mem_singleton_self row)
  have before := probe_quiet
    (Program.Obeys.mono _ (fun _ _ _ => trivial) obeys) key after alive
  obtain ⟨row', member, own, json⟩ := waiting key after before user doomed
  rcases List.mem_cons.mp member with rfl | member
  · subst own
    exfalso
    obtain ⟨reason, read⟩ := probeReason_doomed around state doomed
    have ended := (handle_end around state
      (endedEnvelope row'.key reason after.lastPid observedAtMs)
      { expectedCurrentState := after.currentState
        expectedLastPid := after.lastPid
        expectedLastEventAtMs := none } rfl).2
    have stored : state.db.stored row'.key = some after := before.1
    refine ended ?_ after ?_
    · simp [WritePrecondition.admits, endedEnvelope, EventEnvelope.key, stored]
    · have same : ((probeRow observedAtMs row' report).runWith
          (Sequential.probe around os) state).2 =
            (Sequential.handle around (.writeInner
              (endedEnvelope row'.key reason after.lastPid observedAtMs)
              (some {
                expectedCurrentState := after.currentState
                expectedLastPid := after.lastPid
                expectedLastEventAtMs := none })) state).2 := by
        simp only [probeRow, json, Db.StateText.parse, alive.2, if_false,
          Program.runWith_bind, read]
        rfl
      rw [same] at alive
      exact alive
  · exact ⟨row', member, own, json⟩

variable (around) in
theorem probeRows_waiting (observedAtMs : Int) (rows : List Db.ProjectionRow)
    (report : ProbeReport) (waiting : Waiting os rows state) :
    Waiting os [] ((probeRows observedAtMs rows report).runWith
      (Sequential.probe around os) state).2 := by
  induction rows generalizing state report with
  | nil => exact waiting
  | cons row rest induction =>
      have next := probeRow_waiting around observedAtMs row rest report waiting
      have unrolled : (probeRows observedAtMs (row :: rest) report).runWith
          (Sequential.probe around os) state =
            (probeRows observedAtMs rest
              ((probeRow observedAtMs row report).runWith
                (Sequential.probe around os) state).1).runWith
              (Sequential.probe around os)
              ((probeRow observedAtMs row report).runWith
                (Sequential.probe around os) state).2 := by
        simp only [probeRows, isCancelled, Program.query_bind,
          Program.runWith_ask, Sequential.probe, Bool.false_eq_true, if_false]
        exact Program.runWith_bind _ _ _ _
      rw [unrolled]
      exact induction _ next

/-- After a pass, no doomed session is left alive. -/
theorem probed_ends {key : SessionKey} {after : SessionState}
    (user : key.isSentinel = false) (doomed : Doomed os after) :
    ¬ live (state.probed around os).db key after := by
  intro alive
  have start : Waiting os state.db.selectNonSentinelSessions
      { state with asked := state.asked + 1 } := by
    intro key after alive user doomed
    obtain ⟨row, member, rfl, json⟩ := stored_row alive.1
    refine ⟨row, ?_, rfl, json⟩
    rw [Db.mem_selectNonSentinelSessions]
    refine ⟨member, ?_⟩
    exact SessionKey.isSentinel_eq_false.mp user
  have done := probeRows_waiting around (around.clock state.asked)
    state.db.selectNonSentinelSessions ProbeReport.default start
  have same : state.probed around os =
      ((probeRows (around.clock state.asked)
        state.db.selectNonSentinelSessions ProbeReport.default).runWith
          (Sequential.probe around os)
          { state with asked := state.asked + 1 }).2 := by
    simp only [Sequential.probed, probeOnce, selectNonSentinelSessions,
      currentUnixMillis, Program.query_bind, Program.runWith_ask,
      Sequential.probe, Sequential.handle, Program.runWith_bind]
    rfl
  rw [same] at alive
  obtain ⟨row, member, _⟩ := done key after alive user doomed
  cases member

end Probe

theorem Reached.nameable {db : Db}
    (reached : Reached (Process.ReplaysOnly · NamesProcess) db) :
    Nameable db := by
  induction reached with
  | empty => exact ⟨Db.wellFormed_empty, by simp [Db.empty], by simp [Db.empty]⟩
  | run before ran induction => exact induction.run ran

/-- Of every database that runs lead to which replay nothing on pid zero: no
session is on pid zero, and a pass ends every session whose process is gone. -/
theorem no_immortal_session {db : Db}
    (reached : Reached (Process.ReplaysOnly · NamesProcess) db) :
    (∀ row ∈ db.projections, ∀ state, row.state = .json state →
      state.lastPid ≠ some 0) ∧
      ∀ around os alive asked, Truthful alive os →
        ∀ key state, key.isSentinel = false → db.stored key = some state →
          state.currentState ≠ .ended →
          (∀ pid, state.lastPid = some pid → ¬ alive pid) →
            ∃ after, (Sequential.probed around os { db, asked }).db.stored key =
                some after ∧ after.currentState = .ended := by
  have nameable := reached.nameable
  refine ⟨nameable.mortal, ?_⟩
  intro around os alive asked truthful key state user stored live dead
  have doomed : Doomed os state := by
    intro pid carried
    obtain ⟨row, member, _, json⟩ := stored_row stored
    apply truthful.gone pid _ (dead pid carried)
    rintro rfl
    exact nameable.mortal row member state json carried
  have kept : ((Sequential.probed around os { db, asked }).db.stored
      key).isSome = true := by
    apply probed_kept user
    exact Option.isSome_iff_exists.mpr ⟨state, stored⟩
  obtain ⟨after, found⟩ := Option.isSome_iff_exists.mp kept
  refine ⟨after, found, ?_⟩
  by_contra running
  have quiet : Quiet db (Sequential.probed around os { db, asked }).db :=
    probe_quiet probeOnce_obeys
  have before := quiet key after ⟨found, running⟩
  have own : after = state := Option.some.inj (before.1.symm.trans stored)
  subst own
  exact probed_ends user doomed ⟨found, running⟩

/-! A replayed event on a pid, and then a pass in a system without processes. -/

def desertedOs (pid : Nat) : KillResult :=
  if pid = 0 then .ok else .esrch

theorem desertedOs_truthful : Truthful (fun _ => False) desertedOs where
  group := rfl
  there := by
    intro pid _ alive
    cases alive
  gone := by
    intro pid nonzero _
    exact if_neg nonzero

def pidProcess (pid : Nat) : ProcessConfig :=
  { Process.simpleProcess with
    serde := { Process.simpleSerde with
      read := fun text =>
        if text = "b" then
          some (EventJson.toJson
            { Process.replayedEvent with pid := some pid })
        else none } }

def replayOnPid : List ProcessLabel :=
  Process.startUp ++ [.replay (Utf8.encode "b\n"), .receive] ++
    Process.writeTask 2 2000

theorem no_immortal_session_replayOnPid :
    ∃ db state, db.stored ⟨"claude", "b"⟩ = some state ∧
      state.lastPid = some 7 ∧ state.currentState ≠ .ended ∧
      ∃ after, (Sequential.probed steady desertedOs
          { db, asked := 0 }).db.stored ⟨"claude", "b"⟩ = some after ∧
        after.currentState = .ended := by
  have ⟨final, seen, run, checked⟩ := Machine.exec_check
    (by decide : (Process.machine (pidProcess 7)).execMeets
      (Process.ReplaysOnly (pidProcess 7) NamesProcess)
      (Process.boot (pidProcess 7).serde.parse FaultPlan.none Db.empty)
      replayOnPid)
    (fun result : Process × List ProcessSeen =>
      decide (∃ state ∈ result.1.system.store.db.stored ⟨"claude", "b"⟩,
        state.lastPid = some 7 ∧ state.currentState ≠ .ended))
    (by decide)
  obtain ⟨state, stored, onPid, live⟩ := of_decide_eq_true checked
  have ends := (no_immortal_session (Reached.run Reached.empty run)).2
  exact ⟨final.system.store.db, state, stored, onPid, live,
    ends steady desertedOs _ 0 desertedOs_truthful ⟨"claude", "b"⟩ state rfl
      stored live fun _ _ alive => alive⟩

/-- On pid zero the session outlives every process. -/
theorem replay_on_pid_zero_is_immortal :
    ∃ db state, Reached (fun _ _ _ => True) db ∧
      db.stored ⟨"claude", "b"⟩ = some state ∧ state.lastPid = some 0 ∧
      state.currentState ≠ .ended ∧ Truthful (fun _ => False) desertedOs ∧
      (Sequential.probed steady desertedOs { db, asked := 0 }).db.stored
        ⟨"claude", "b"⟩ = some state := by
  have ⟨final, seen, run, checked⟩ := Machine.exec_check
    ((Process.machine (pidProcess 0)).execMeets_true
      (Process.boot (pidProcess 0).serde.parse FaultPlan.none Db.empty)
      replayOnPid)
    (fun result : Process × List ProcessSeen =>
      decide (∃ state ∈ result.1.system.store.db.stored ⟨"claude", "b"⟩,
        state.lastPid = some 0 ∧ state.currentState ≠ .ended ∧
        (Sequential.probed steady desertedOs
          { db := result.1.system.store.db, asked := 0 }).db.stored
            ⟨"claude", "b"⟩ = some state))
    (by decide)
  obtain ⟨state, stored, onZero, live, kept⟩ := of_decide_eq_true checked
  exact ⟨final.system.store.db, state, Reached.run Reached.empty run, stored,
    onZero, live, desertedOs_truthful, kept⟩

end Bowerbird.Daemon
