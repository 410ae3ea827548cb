import Bowerbird.Daemon.System

namespace Bowerbird.Daemon

open Protocol Foundation Projection

/-! One writer at a time and nothing that fails: hooks and probe passes, each run
to its end before the next begins. -/

/-- The answers of the clock, of `kill` and of the shutdown flag, by the number
of the question. -/
structure Surroundings where
  clock : Nat → Int
  kill : Nat → KillResult
  cancelled : Nat → Bool

structure Sequential where
  db : Db
  asked : Nat

namespace Sequential

def transact (around : Surroundings) (request : WriteRequest)
    (state : Sequential) : Except SqlError Outcome × Sequential :=
  let (result, db) := Tx.run FaultPlan.none
    (request.transaction (around.clock state.asked)) state.db
  (result, { db, asked := state.asked + 1 })

def sentinelKindError (kind : EventKind) : Error :=
  .projection ("sentinel EventKind (" ++ kind.toWire ++
    ") cannot be written through projection::session::write; " ++
    "use write_recording_started / write_recording_ended")

def handle (around : Surroundings) :
    (op : Op) → Sequential → op.Answer × Sequential
  | .writeInner envelope precondition, state =>
      if envelope.kind.isRecording then
        (.error (sentinelKindError envelope.kind), state)
      else
        let (result, next) :=
          state.transact around (.event envelope precondition)
        (match result with
          | .error error => .error (.sqlite error)
          | .ok (.written written) => .ok (some written.eventId)
          | .ok _ => .ok none, next)
  | .writeRecordingStarted, state =>
      let (result, next) := state.transact around .recordingStarted
      (match result with
        | .error error => .error (.sqlite error)
        | .ok (.recordingStarted eventId recordingSessionId) =>
            .ok { eventId, recordingSessionId }
        | .ok _ => .error (.sqlite .queryReturnedNoRows), next)
  | .writeRecordingEnded recordingSessionId, state =>
      let (result, next) :=
        state.transact around (.recordingEnded recordingSessionId)
      (match result with
        | .error error => .error (.sqlite error)
        | .ok (.recordingEnded eventId) => .ok eventId
        | .ok _ => .error (.sqlite .queryReturnedNoRows), next)
  | .selectNonSentinelSessions, state =>
      (.ok state.db.selectNonSentinelSessions, state)
  | .currentUnixMillis, state =>
      (.ok (around.clock state.asked), { state with asked := state.asked + 1 })
  | .kill _, state =>
      (around.kill state.asked, { state with asked := state.asked + 1 })
  | .isCancelled, state =>
      (around.cancelled state.asked, { state with asked := state.asked + 1 })

/-- The state after a program has run to its end. -/
def after {Result : Type} (around : Surroundings) (program : Async Result)
    (state : Sequential) : Sequential :=
  (program.runWith (handle around) state).2

end Sequential

/-- What the sequences are made of. -/
inductive Call where
  | hook (envelope : EventEnvelope)
  | probe
  deriving Repr, DecidableEq

def Call.job : Call → Job
  | hook envelope => .hook envelope
  | probe => .probe

/-- A hook event and the database that it found. -/
structure HookEvent where
  envelope : EventEnvelope
  found : Db

/-- At rest between two calls, with the hook events so far. -/
structure Rest where
  state : Sequential
  hooks : List HookEvent

namespace Rest

def empty : Rest :=
  { state := { db := Db.empty, asked := 0 }, hooks := [] }

/-- Hooks of lifecycle kinds are refused and leave no event. -/
def call (around : Surroundings) (rest : Rest) (call : Call) : Rest :=
  { state := rest.state.after around call.job.task
    hooks := rest.hooks ++
      match call with
      | .hook envelope =>
          if envelope.kind.isRecording then []
          else [{ envelope, found := rest.state.db }]
      | .probe => [] }

def calls (around : Surroundings) (made : List Call) : Rest :=
  made.foldl (Rest.call around) empty

end Rest

/-! A step is quiet when every session that it leaves alive was so before. -/

def live (db : Db) (key : SessionKey) (state : SessionState) : Prop :=
  db.stored key = some state ∧ state.currentState ≠ .ended

instance (db : Db) (key : SessionKey) (state : SessionState) :
    Decidable (live db key state) :=
  inferInstanceAs (Decidable (_ ∧ _))

def Quiet (db next : Db) : Prop :=
  ∀ key state, live next key state → live db key state

theorem Quiet.refl (db : Db) : Quiet db db :=
  fun _ _ alive => alive

theorem Quiet.trans {first second third : Db} (early : Quiet first second)
    (late : Quiet second third) : Quiet first third :=
  fun key state alive => early key state (late key state alive)

section Handle

variable {around : Surroundings} {state : Sequential}

theorem transact_eq (request : WriteRequest) :
    state.transact around request =
      ((request.outcome (around.clock state.asked) state.db).1,
        { db := (request.outcome (around.clock state.asked) state.db).2.getD
            state.db
          asked := state.asked + 1 }) := by
  have done := (WriteRequest.transaction_settles request
    (around.clock state.asked)).run_none state.db
  simp only [Sequential.transact, done]

variable (around state) in
/-- A write that leaves its session ended, or without a state, is quiet. -/
theorem transact_quiet {request : WriteRequest}
    (dull : ∀ nowMs db after,
      (request.stateText nowMs db).parse = some after →
        after.currentState = .ended) :
    Quiet state.db (state.transact around request).2.db ∧
      ((request.outcome (around.clock state.asked) state.db).2.isSome →
        ∀ after, ¬ live (state.transact around request).2.db
          (request.columns (around.clock state.asked)).key after) := by
  rw [transact_eq]
  dsimp only
  cases outcome : (request.outcome (around.clock state.asked) state.db).2 with
  | none => exact ⟨Quiet.refl _, fun some => by cases some⟩
  | some next =>
      have appends := WriteRequest.outcome_appends outcome
      have ended : ∀ after,
          ¬ live next (request.columns (around.clock state.asked)).key after := by
        intro after alive
        have stored := appends.stored_self
        rw [alive.1] at stored
        exact alive.2 (dull _ _ _ stored.symm)
      refine ⟨fun key after alive => ?_, fun _ => ended⟩
      by_cases own : (request.columns (around.clock state.asked)).key = key
      · subst own
        exact absurd alive (ended after)
      · refine ⟨?_, alive.2⟩
        rw [← appends.stored_ne own]
        exact alive.1

theorem handle_write (envelope : EventEnvelope)
    (precondition : Option WritePrecondition)
    (accepted : envelope.kind.isRecording = false) :
    (Sequential.handle around (.writeInner envelope precondition) state).2 =
      (state.transact around (.event envelope precondition)).2 := by
  simp [Sequential.handle, accepted]

theorem end_dull {envelope : EventEnvelope}
    (precondition : Option WritePrecondition)
    (ends : envelope.kind = .sessionEnded) (nowMs : Int) (db : Db)
    (after : SessionState)
    (parsed : ((WriteRequest.event envelope precondition).stateText nowMs
      db).parse = some after) :
    after.currentState = .ended := by
  cases parsed
  simp [envelopeTransition, ends]

variable (around state) in
/-- A conditional end is quiet, and if its session is as the condition has it,
the session is ended. -/
theorem handle_end (envelope : EventEnvelope)
    (precondition : WritePrecondition) (ends : envelope.kind = .sessionEnded) :
    Quiet state.db (Sequential.handle around
        (.writeInner envelope (some precondition)) state).2.db ∧
      (precondition.admits (state.db.stored envelope.key) = true →
        ∀ after, ¬ live (Sequential.handle around
          (.writeInner envelope (some precondition)) state).2.db
            envelope.key after) := by
  rw [handle_write _ _ (by rw [ends]; rfl)]
  obtain ⟨quiet, ended⟩ := transact_quiet around state
    (end_dull (some precondition) ends)
  refine ⟨quiet, fun admitted => ended ?_⟩
  simp [WriteRequest.outcome, preconditionAdmits, admitted]

end Handle

/-- Whatever a scan may ask for is quiet. -/
theorem handle_quiet {around : Surroundings} {pins : Bool}
    {memory : Option (List Db.ProjectionRow)} {op : Op} {state : Sequential}
    (allowed : (scanMonitor none pins).allowed memory op) :
    Quiet state.db (Sequential.handle around op state).2.db := by
  cases op with
  | writeInner envelope precondition =>
      cases precondition with
      | none => cases allowed
      | some precondition =>
          obtain ⟨_, _, _, _, ends, _⟩ := allowed
          exact (handle_end _ _ _ _ ends).1
  | writeRecordingStarted =>
      have quiet : Quiet state.db
          (state.transact around .recordingStarted).2.db := by
        apply (transact_quiet around state _).1
        intro nowMs db after parsed
        cases parsed
      exact quiet
  | writeRecordingEnded recordingSessionId =>
      have quiet : Quiet state.db
          (state.transact around
            (.recordingEnded recordingSessionId)).2.db := by
        apply (transact_quiet around state _).1
        intro nowMs db after parsed
        cases parsed
      exact quiet
  | selectNonSentinelSessions => exact Quiet.refl _
  | currentUnixMillis => exact Quiet.refl _
  | kill pid => exact Quiet.refl _
  | isCancelled => exact Quiet.refl _

theorem quiet_of_obeys {around : Surroundings} {Result : Type}
    {program : Async Result} {pins : Bool}
    {memory : Option (List Db.ProjectionRow)} {state : Sequential}
    (obeys : program.Obeys (scanMonitor none pins) (fun _ _ => True) memory) :
    Quiet state.db (program.runWith (Sequential.handle around) state).2.db := by
  refine Program.Obeys.runWith (scanMonitor none pins)
    (fun before after : Sequential => Quiet before.db after.db) ?_ ?_ ?_ obeys
  · intro state
    exact Quiet.refl state.db
  · intro first second third early late
    exact Quiet.trans early late
  · intro memory op state allowed
    exact handle_quiet allowed

/-! The supersession loop. -/

section Supersede

variable (around : Surroundings) (successor : SessionKey) (pid : Nat)

/-- What the loop still has to end: the live predecessors on the pid, each with
its row among the rows to come. -/
def Remaining (rows : List Db.ProjectionRow) (state : Sequential) : Prop :=
  ∀ key after, live state.db key after → key.isSentinel = false →
    key ≠ successor → after.lastPid = some pid →
    ∃ row ∈ rows, row.key = key ∧ row.state = .json after

theorem supersedeRow_remaining (observedAtMs : Int) (row : Db.ProjectionRow)
    (rest : List Db.ProjectionRow) (state : Sequential)
    (remaining : Remaining successor pid (row :: rest) state) :
    Remaining successor pid rest
      ((supersedeRow successor pid observedAtMs row).runWith
        (Sequential.handle around) state).2 := by
  intro key after alive user other onPid
  have obeys : (supersedeRow successor pid observedAtMs row).Obeys
      (scanMonitor none true) (fun after _ => after = some [row])
      (some [row]) := supersedeRow_obeys (List.mem_singleton_self row)
  have before := quiet_of_obeys
    (Program.Obeys.mono _ (fun _ _ _ => trivial) obeys) key after alive
  obtain ⟨row', member, own, json⟩ := remaining key after before user other onPid
  rcases List.mem_cons.mp member with rfl | member
  · subst own
    exfalso
    have victim : supersedeRow successor pid observedAtMs row' = do
        let _ ← writeIfStateMatches
          (endedEnvelope row'.key .pidSuperseded (some pid) observedAtMs)
          { expectedCurrentState := after.currentState
            expectedLastPid := some pid
            expectedLastEventAtMs := some after.lastEventAtMs }
        return () := by
      simp [supersedeRow, other, json, Db.StateText.parse, alive.2, onPid]
    rw [victim] at alive
    have stored : state.db.stored row'.key = some after := before.1
    have ended := (handle_end around state
      (endedEnvelope row'.key .pidSuperseded (some pid) observedAtMs)
      { expectedCurrentState := after.currentState
        expectedLastPid := some pid
        expectedLastEventAtMs := some after.lastEventAtMs } rfl).2
    apply ended _ after alive
    simp [WritePrecondition.admits, endedEnvelope, EventEnvelope.key, stored,
      onPid]
  · exact ⟨row', member, own, json⟩

/-- After a scan, no other session is alive on the pid. -/
theorem supersedePredecessors_ends (state : Sequential) (key : SessionKey)
    (after : SessionState) (user : key.isSentinel = false)
    (other : key ≠ successor) (onPid : after.lastPid = some pid) :
    ¬ live ((supersedePredecessors successor pid).runWith
      (Sequential.handle around) state).2.db key after := by
  intro alive
  have start : Remaining successor pid state.db.selectNonSentinelSessions
      { state with asked := state.asked + 1 } := by
    intro key after alive user other onPid
    have stored := alive.1
    simp only [Db.stored, Db.selectSessionProjectionState] at stored
    obtain ⟨text, found, parsed⟩ := Option.bind_eq_some_iff.mp stored
    obtain ⟨row, lookup, rfl⟩ := Option.map_eq_some_iff.mp found
    have named := KeyedTable.lookup_key lookup
    refine ⟨row, ?_, named, parse_json parsed⟩
    rw [Db.mem_selectNonSentinelSessions]
    refine ⟨KeyedTable.lookup_mem lookup, ?_⟩
    rw [← named] at user
    exact SessionKey.isSentinel_eq_false.mp user
  have done := Program.runWith_each (Sequential.handle around)
    (supersedeRow successor pid (around.clock state.asked))
    (supersedeRow_remaining around successor pid _) start
  obtain ⟨row, member, _⟩ := done key after alive user other onPid
  cases member

end Supersede

/-! One hook. -/

/-- What a hook may leave alive: other sessions as they were, and its own as the
transition has it; on the pid that it claims, no other session at all. -/
structure HookEffect (envelope : EventEnvelope) (db next : Db) : Prop where
  others : ∀ key after, key ≠ envelope.key → live next key after →
    live db key after
  own : ∀ after, live next envelope.key after → ∃ nowMs,
    after = envelopeTransition envelope (db.stored envelope.key) nowMs
  superseded : ∀ pid, envelope.pid = some pid →
    envelope.kind ≠ .sessionEnded → ∀ key after, key.isSentinel = false →
      key ≠ envelope.key → after.lastPid = some pid → ¬ live next key after

theorem HookEffect.quiet {envelope : EventEnvelope} {db middle next : Db}
    (others : ∀ key after, key ≠ envelope.key → live middle key after →
      live db key after)
    (own : ∀ after, live middle envelope.key after → ∃ nowMs,
      after = envelopeTransition envelope (db.stored envelope.key) nowMs)
    (quiet : Quiet middle next)
    (superseded : ∀ pid, envelope.pid = some pid →
      envelope.kind ≠ .sessionEnded → ∀ key after, key.isSentinel = false →
        key ≠ envelope.key → after.lastPid = some pid →
        ¬ live next key after) :
    HookEffect envelope db next where
  others := fun key after other alive =>
    others key after other (quiet key after alive)
  own := fun after alive => own after (quiet _ after alive)
  superseded := superseded

/-- The primary write always commits. -/
theorem writeCommitted_run (around : Surroundings) (envelope : EventEnvelope)
    (accepted : envelope.kind.isRecording = false) (state : Sequential) :
    ∃ eventId next, (writeCommitted envelope).runWith
        (Sequential.handle around) state = (.ok eventId, next) ∧
      (WriteRequest.event envelope none).Appends (around.clock state.asked)
        state.db next.db := by
  obtain ⟨written, next, outcome⟩ := WriteRequest.outcome_unconditional
    envelope (around.clock state.asked) state.db
  have appends := WriteRequest.outcome_appends (congrArg Prod.snd outcome)
  refine ⟨written.eventId, { db := next, asked := state.asked + 1 }, ?_,
    appends⟩
  have answered : Sequential.handle around (.writeInner envelope none) state =
      (.ok (some written.eventId),
        { db := next, asked := state.asked + 1 }) := by
    simp [Sequential.handle, accepted, transact_eq, outcome]
  simp only [writeCommitted, writeInner, Program.query_bind,
    Program.runWith_ask, answered]
  rfl

theorem write_effect (around : Surroundings) (envelope : EventEnvelope)
    (accepted : envelope.kind.isRecording = false) (state : Sequential) :
    HookEffect envelope state.db
      ((write envelope).runWith (Sequential.handle around) state).2.db := by
  obtain ⟨eventId, next, ran, appends⟩ :=
    writeCommitted_run around envelope accepted state
  have others (key : SessionKey) (after : SessionState)
      (other : key ≠ envelope.key) (alive : live next.db key after) :
      live state.db key after := by
    have apart : ((WriteRequest.event envelope none).columns
        (around.clock state.asked)).key ≠ key := fun same => other same.symm
    exact ⟨appends.stored_ne apart ▸ alive.1, alive.2⟩
  have own (after : SessionState) (alive : live next.db envelope.key after) :
      ∃ nowMs, after = envelopeTransition envelope
        (state.db.stored envelope.key) nowMs := by
    have stored : next.db.stored envelope.key = _ := appends.stored_self
    rw [alive.1] at stored
    exact ⟨around.clock state.asked, Option.some.inj stored⟩
  have stays (idle : ∀ pid, envelope.pid = some pid →
      envelope.kind = .sessionEnded) :
      HookEffect envelope state.db next.db := by
    apply HookEffect.quiet others own (Quiet.refl next.db)
    intro pid claims hook
    exact absurd (idle pid claims) hook
  rw [write, Program.runWith_bind, ran]
  dsimp only
  cases claims : envelope.pid with
  | none =>
      apply stays
      intro pid claims'
      rw [claims] at claims'
      cases claims'
  | some pid =>
      dsimp only
      by_cases ended : envelope.kind = .sessionEnded
      · rw [if_pos ended]
        exact stays fun _ _ => ended
      · rw [if_neg ended, Program.runWith_bind]
        apply HookEffect.quiet others own
        · exact quiet_of_obeys (supersedePredecessors_obeys envelope.key pid)
        · intro pid' claims' _ key after user other onPid
          rw [claims] at claims'
          cases claims'
          exact supersedePredecessors_ends around envelope.key pid next key
            after user other onPid

theorem write_refused (around : Surroundings) (envelope : EventEnvelope)
    (refused : envelope.kind.isRecording = true) (state : Sequential) :
    ((write envelope).runWith (Sequential.handle around) state).2 = state := by
  have answered : Sequential.handle around (.writeInner envelope none) state =
      (.error (Sequential.sentinelKindError envelope.kind), state) := by
    simp [Sequential.handle, refused]
  simp only [write, writeCommitted, writeInner, Program.query_bind,
    Program.ask_bind, Program.runWith_ask, answered]
  rfl

/-! Who is alive on a pid. -/

/-- A hook that carries the pid and is not the end of its session. -/
def Claims (pid : Nat) (hook : HookEvent) : Prop :=
  hook.envelope.pid = some pid ∧ hook.envelope.kind ≠ .sessionEnded

/-- A hook without a pid that found its session ended and carried its pid on. -/
def Revives (hook : HookEvent) : Prop :=
  hook.envelope.pid = none ∧ hook.envelope.kind ≠ .sessionEnded ∧
    ∃ state, hook.found.stored hook.envelope.key = some state ∧
      state.currentState = .ended

/-- The latest hooks of a session with a meaning for the pid: it claims the pid,
or revives the session, and no session has claimed the pid since. -/
def Holds (pid : Nat) (key : SessionKey) (hooks : List HookEvent)
    (how : HookEvent → Prop) : Prop :=
  ∃ early hook late, hooks = early ++ hook :: late ∧
    hook.envelope.key = key ∧ how hook ∧
    ∀ later ∈ late, ¬ Claims pid later

theorem Holds.last {pid : Nat} {hooks : List HookEvent} {hook : HookEvent}
    {how : HookEvent → Prop} (is : how hook) :
    Holds pid hook.envelope.key (hooks ++ [hook]) how :=
  ⟨hooks, hook, [], rfl, rfl, is, by simp⟩

theorem Holds.snoc {pid : Nat} {key : SessionKey} {hooks : List HookEvent}
    {hook : HookEvent} {how : HookEvent → Prop}
    (holds : Holds pid key hooks how) (unclaimed : ¬ Claims pid hook) :
    Holds pid key (hooks ++ [hook]) how := by
  obtain ⟨early, holder, late, rfl, own, is, since⟩ := holds
  refine ⟨early, holder, late ++ [hook], by simp, own, is, ?_⟩
  intro later member
  rcases List.mem_append.mp member with member | member
  · exact since later member
  · rw [List.mem_singleton.mp member]
    exact unclaimed

/-- Two last claims of one pid are one claim. -/
theorem Holds.unique {pid : Nat} {first second : SessionKey}
    {hooks : List HookEvent} (one : Holds pid first hooks (Claims pid))
    (other : Holds pid second hooks (Claims pid)) : first = second := by
  obtain ⟨early, hook, late, rfl, rfl, claims, since⟩ := one
  obtain ⟨early', hook', late', same, rfl, claims', since'⟩ := other
  rcases List.append_eq_append_iff.mp same with
    ⟨between, rfl, split⟩ | ⟨between, rfl, split⟩
  · cases between with
    | nil => cases split; rfl
    | cons head rest =>
        cases split
        exact absurd claims' (since hook' (by simp))
  · cases between with
    | nil => cases split; rfl
    | cons head rest =>
        cases split
        exact absurd claims (since' hook (by simp))

/-- Every session alive on a pid is its last claimant, or was revived since. -/
def Accounted (rest : Rest) : Prop :=
  ∀ key state pid, key.isSentinel = false → live rest.state.db key state →
    state.lastPid = some pid →
    Holds pid key rest.hooks (Claims pid) ∨ Holds pid key rest.hooks Revives

theorem Accounted.hook {around : Surroundings} {rest : Rest}
    (accounted : Accounted rest) (envelope : EventEnvelope) :
    Accounted (rest.call around (.hook envelope)) := by
  by_cases refused : envelope.kind.isRecording = true
  · intro key state pid user alive onPid
    have same : (rest.call around (.hook envelope)).state = rest.state := by
      simp only [Rest.call, Sequential.after, Call.job, Job.task,
        Program.runWith_bind, write_refused around envelope refused]
      rfl
    rw [same] at alive
    simpa [Rest.call, refused] using accounted key state pid user alive onPid
  · rw [Bool.not_eq_true] at refused
    have effect := write_effect around envelope refused rest.state
    have state_eq : (rest.call around (.hook envelope)).state =
        ((write envelope).runWith (Sequential.handle around) rest.state).2 := by
      simp only [Rest.call, Sequential.after, Call.job, Job.task,
        Program.runWith_bind]
      rfl
    have hooks_eq : (rest.call around (.hook envelope)).hooks =
        rest.hooks ++ [{ envelope, found := rest.state.db }] := by
      simp [Rest.call, refused]
    intro key state pid user alive onPid
    rw [state_eq] at alive
    rw [hooks_eq]
    by_cases own : key = envelope.key
    · subst own
      obtain ⟨nowMs, rfl⟩ := effect.own state alive
      have forward : envelope.kind ≠ .sessionEnded := by
        intro ended
        apply alive.2
        simp [envelopeTransition, ended]
      simp only [envelopeTransition, transition_lastPid] at onPid
      cases carried : envelope.pid with
      | some claimed =>
          rw [carried] at onPid
          cases onPid
          exact .inl (Holds.last ⟨carried, forward⟩)
      | none =>
          rw [carried, Option.none_or] at onPid
          obtain ⟨before, stored, kept⟩ := Option.bind_eq_some_iff.mp onPid
          by_cases ended : before.currentState = .ended
          · exact .inr (Holds.last ⟨carried, forward, before, stored, ended⟩)
          · have unclaimed : ¬ Claims pid
                { envelope, found := rest.state.db } := by
              rintro ⟨claims, _⟩
              rw [carried] at claims
              cases claims
            exact (accounted _ before pid user ⟨stored, ended⟩ kept).imp
              (Holds.snoc · unclaimed) (Holds.snoc · unclaimed)
    · have unclaimed : ¬ Claims pid
          { envelope, found := rest.state.db } := by
        rintro ⟨claims, forward⟩
        exact effect.superseded pid claims forward key state user own onPid alive
      exact (accounted key state pid user
        (effect.others key state own alive) onPid).imp
          (Holds.snoc · unclaimed) (Holds.snoc · unclaimed)

theorem Accounted.probe {around : Surroundings} {rest : Rest}
    (accounted : Accounted rest) : Accounted (rest.call around .probe) := by
  intro key state pid user alive onPid
  have quiet : Quiet rest.state.db (rest.call around .probe).state.db :=
    quiet_of_obeys Job.probe.task_obeys
  have same : (rest.call around .probe).hooks = rest.hooks := by
    simp [Rest.call]
  rw [same]
  exact accounted key state pid user (quiet key state alive) onPid

/-- At rest after any hooks and probe passes, a session that is alive on a pid is
the one of the latest hook that claimed the pid, or has been revived by a hook
without a pid since; so of those not so revived there is one at most. -/
theorem one_holder_per_pid (around : Surroundings) (made : List Call) :
    let rest := Rest.calls around made
    (∀ key state pid, key.isSentinel = false → live rest.state.db key state →
      state.lastPid = some pid →
      Holds pid key rest.hooks (Claims pid) ∨
        Holds pid key rest.hooks Revives) ∧
      ∀ first second state state' pid,
        first.isSentinel = false → second.isSentinel = false →
        live rest.state.db first state → live rest.state.db second state' →
        state.lastPid = some pid → state'.lastPid = some pid →
        ¬ Holds pid first rest.hooks Revives →
        ¬ Holds pid second rest.hooks Revives → first = second := by
  intro rest
  have accounted : Accounted rest := by
    have along (from' : Rest) (accounted : Accounted from') :
        Accounted (made.foldl (Rest.call around) from') := by
      induction made generalizing from' with
      | nil => exact accounted
      | cons call others induction =>
          rw [List.foldl_cons]
          apply induction
          cases call with
          | hook envelope => exact accounted.hook envelope
          | probe => exact accounted.probe
    apply along
    rintro key state pid _ ⟨stored, _⟩ _
    cases stored
  refine ⟨accounted, ?_⟩
  intro first second state state' pid user user' alive alive' onPid onPid'
    unrevived unrevived'
  have one := (accounted first state pid user alive onPid).resolve_right
    unrevived
  have other := (accounted second state' pid user' alive'
    onPid').resolve_right unrevived'
  exact one.unique other

/-! A session that another has superseded on its pid comes back by a hook without
a pid: its old pid is carried forward, and nothing is superseded. -/

def steady : Surroundings :=
  { clock := fun question => 1000 + question
    kill := fun _ => .ok
    cancelled := fun _ => false }

def supersededAndBack : List Call :=
  [.hook (System.bareHook "a" .preToolUse (some 7)),
    .hook (System.bareHook "b" .preToolUse (some 7)),
    .hook (System.bareHook "a" .preToolUse none)]

theorem two_alive_on_one_pid :
    ∃ (first second : SessionKey) (state state' : SessionState),
      first ≠ second ∧ first.isSentinel = false ∧
      second.isSentinel = false ∧
      live (Rest.calls steady supersededAndBack).state.db first state ∧
      live (Rest.calls steady supersededAndBack).state.db second state' ∧
      state.lastPid = some 7 ∧ state'.lastPid = some 7 := by
  refine ⟨⟨"claude", "a"⟩, ⟨"claude", "b"⟩,
    ⟨.working, .preToolUse, 1005, some 7, none, some 1000⟩,
    ⟨.working, .preToolUse, 1002, some 7, none, some 1002⟩, ?_⟩
  decide

end Bowerbird.Daemon
