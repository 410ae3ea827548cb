import Bowerbird.Daemon.Sweep

namespace Bowerbird.Daemon

open Protocol Foundation Projection Ingest

/-! A pid passes to the session that claims it: what one live write leaves behind,
whatever the database it found. -/

/-- The kinds that hooks come with. -/
def HookKind (kind : EventKind) : Prop :=
  kind.isRecording = false ∧ kind ≠ .unknown ∧ kind ≠ .sessionEnded

/-- Whatever the socket lets in is of such a kind. -/
theorem judge_hookKind {serde : Serde}
    {toolReactions : Option (List (String × String))} {received : Received}
    {envelope : EventEnvelope}
    (judged : judge serde toolReactions received = some (.ok envelope)) :
    HookKind envelope.kind := by
  obtain ⟨_, _, accepted⟩ := judge_ok judged
  obtain ⟨_, _, _, _, _, normalized, _, _⟩ := vet_ok accepted
  obtain ⟨kind, _⟩ := Adapter.normalize_ok serde.parse normalized
  exact Adapter.hookEventKind_ok kind

theorem nextCurrentState_hook {kind : EventKind} (hook : HookKind kind)
    (prev : Option SessionState)
    (notificationType : Option NotificationType) :
    ∃ current, nextCurrentState prev kind notificationType = some current ∧
      current ≠ .ended := by
  obtain ⟨recording, known, forward⟩ := hook
  cases kind with
  | recordingStarted | recordingEnded => cases recording
  | unknown => exact absurd rfl known
  | sessionEnded => exact absurd rfl forward
  | userPromptSubmit | preToolUse | postToolUse | stop =>
      exact ⟨_, rfl, by simp⟩
  | notification =>
      simp only [nextCurrentState]
      -- a transient notification brings an ended session back
      cases prev.map SessionState.currentState with
      | none => cases notificationType with
          | none => exact ⟨.idle, rfl, by simp⟩
          | some kind => cases kind <;> exact ⟨_, rfl, by simp⟩
      | some before =>
          cases before <;> cases notificationType with
          | none => exact ⟨_, rfl, by simp⟩
          | some kind => cases kind <;> exact ⟨_, rfl, by simp⟩

theorem transition_live {kind : EventKind} (hook : HookKind kind)
    (prev : Option SessionState) (notificationType : Option NotificationType)
    (pid : Option Nat) (cwd : Option String) (nowMs : Int) :
    (transition prev kind notificationType pid cwd nowMs).currentState ≠
      .ended := by
  obtain ⟨current, next, alive⟩ :=
    nextCurrentState_hook hook prev notificationType
  simp only [transition, next]
  exact alive

/-- A live predecessor on the pid. -/
def superseded (successor : SessionKey) (pid : Nat) (row : Db.ProjectionRow) :
    Bool :=
  decide (row.key ≠ successor) && row.state.parse.any fun stored =>
    decide (stored.currentState ≠ .ended) && decide (stored.lastPid = some pid)

section Supersede

variable (around : Surroundings) (successor : SessionKey) (pid : Nat)
variable {state : Sequential}

theorem supersedeRow_swept (observedAtMs : Int) {row : Db.ProjectionRow}
    (present : state.db.projection row.key = some row) :
    Swept (if superseded successor pid row then [row.key] else []) state.db
      ((supersedeRow successor pid observedAtMs row).runWith
        (Sequential.handle around) state).2.db := by
  by_cases own : row.key = successor
  · simp only [superseded, supersedeRow, own, ne_eq, not_true, decide_false,
      Bool.false_and, if_true]
    exact Swept.refl _
  · cases parsed : row.state.parse with
    | none =>
        simp only [superseded, supersedeRow, own, parsed, Option.any_none,
          Bool.and_false, if_false]
        exact Swept.refl _
    | some stored =>
        by_cases dead : stored.currentState = .ended ∨
            stored.lastPid ≠ some pid
        · have spared : superseded successor pid row = false := by
            simp only [superseded, parsed, Option.any_some, Bool.and_eq_false_iff,
              decide_eq_false_iff_not, not_not]
            exact .inr dead
          simp only [spared, supersedeRow, own, parsed, dead, if_true, if_false]
          exact Swept.refl _
        · rw [not_or, not_not] at dead
          have doomed : superseded successor pid row = true := by
            simp [superseded, own, parsed, dead]
          have alive : live state.db row.key stored :=
            ⟨stored_of_projection present parsed, dead.1⟩
          obtain ⟨eventId, next, ran, swept⟩ := handle_ends around alive
            .pidSuperseded observedAtMs
            {
              expectedCurrentState := stored.currentState
              expectedLastPid := some pid
              expectedLastEventAtMs := some stored.lastEventAtMs }
            (by simp [WritePrecondition.admits, dead.2])
          rw [dead.2] at ran
          simp only [doomed, if_true, supersedeRow, own, parsed, if_false, dead,
            writeIfStateMatches, writeInner]
          simp only [ne_eq, not_true, or_self, if_false, Program.query_bind,
            Program.runWith_ask, ran]
          exact swept

theorem supersedeRows_swept (state : Sequential) (observedAtMs : Int)
    (rows : List Db.ProjectionRow)
    (keyed : KeyedTable.Keyed Db.ProjectionRow.key rows)
    (present : Present rows state.db) :
    Swept (doomedKeys (superseded successor pid) rows) state.db
      ((Program.each (supersedeRow successor pid observedAtMs) rows).runWith
        (Sequential.handle around) state).2.db := by
  induction rows generalizing state with
  | nil => exact Swept.refl _
  | cons row rest induction =>
      have first := supersedeRow_swept around successor pid observedAtMs
        (present row List.mem_cons_self)
      obtain ⟨still, whole⟩ := Swept.cons keyed present first
      rw [Program.each, Program.runWith_bind]
      exact whole _ (induction _ keyed.of_cons still)

theorem supersedePredecessors_swept (wellFormed : state.db.WellFormed) :
    Swept (doomedKeys (superseded successor pid)
        state.db.selectNonSentinelSessions) state.db
      ((supersedePredecessors successor pid).runWith
        (Sequential.handle around) state).2.db := by
  obtain ⟨present, keyed⟩ := present_select wellFormed
  exact supersedeRows_swept around successor pid
    { state with asked := state.asked + 1 } (around.clock state.asked) _ keyed
    present

end Supersede

/-- The predecessors of a scan are the sessions that it found alive on the pid. -/
theorem mem_superseded {db : Db} (wellFormed : db.WellFormed)
    {successor key : SessionKey} {pid : Nat} :
    key ∈ doomedKeys (superseded successor pid) db.selectNonSentinelSessions ↔
      key.isSentinel = false ∧ key ≠ successor ∧
        ∃ state, live db key state ∧ state.lastPid = some pid := by
  rw [mem_doomedKeys]
  constructor
  · rintro ⟨row, member, doomed, rfl⟩
    obtain ⟨inside, user⟩ := Db.mem_selectNonSentinelSessions.mp member
    simp only [superseded, Bool.and_eq_true, decide_eq_true_eq,
      Option.any_eq_true] at doomed
    obtain ⟨other, state, parsed, alive, onPid⟩ := doomed
    have found := KeyedTable.lookup_of_mem wellFormed.keyed inside
    refine ⟨?_, other, state, ⟨stored_of_projection found parsed, alive⟩,
      onPid⟩
    exact SessionKey.isSentinel_eq_false.mpr user
  · rintro ⟨user, other, state, alive, onPid⟩
    obtain ⟨row, member, rfl, json⟩ := stored_row alive.1
    refine ⟨row, Db.mem_selectNonSentinelSessions.mpr ⟨member, ?_⟩, ?_, rfl⟩
    · exact SessionKey.isSentinel_eq_false.mp user
    · simp [superseded, other, json, Db.StateText.parse, alive.2, onPid]

/-- What a live write does: the primary event, and the end of whoever else it
finds alive on the pid. -/
theorem write_swept (around : Surroundings) {envelope : EventEnvelope}
    {pid : Nat} (claims : envelope.pid = some pid)
    (hook : HookKind envelope.kind) (state : Sequential)
    (wellFormed : state.db.WellFormed) :
    ∃ eventId middle next nowMs, (write envelope).runWith
        (Sequential.handle around) state = (.ok eventId, next) ∧
      (WriteRequest.event envelope none).Appends nowMs state.db middle ∧
      Swept (doomedKeys (superseded envelope.key pid)
        middle.selectNonSentinelSessions) middle next.db := by
  obtain ⟨eventId, middle, ran, appends⟩ :=
    writeCommitted_run around envelope hook.1 state
  have swept := supersedePredecessors_swept around envelope.key pid
    (appends.wellFormed wellFormed)
  refine ⟨eventId, middle.db, _, _, ?_, appends, swept⟩
  rw [write, Program.runWith_bind, ran]
  simp only [claims, hook.2.2, if_false, Program.runWith_bind]
  rfl

/-- What a live write leaves behind on its pid. -/
structure Succeeded (envelope : EventEnvelope) (pid : Nat) (db next : Db) :
    Prop where
  holder : ∃ state, live next envelope.key state ∧ state.lastPid = some pid
  alone : ∀ key state, key.isSentinel = false → live next key state →
    state.lastPid = some pid → key = envelope.key
  /-- The emitter's log has its own event more. -/
  own : ∃ row, row.kind = Db.eventKindAsStr envelope.kind ∧
    sessionLog next envelope.key = sessionLog db envelope.key ++ [row]
  ended : ∀ key state, key.isSentinel = false → key ≠ envelope.key →
    live db key state → state.lastPid = some pid →
    ∃ after row, next.stored key = some after ∧ after.currentState = .ended ∧
      after.lastPid = state.lastPid ∧ after.cwd = state.cwd ∧
      after.startedAt = state.startedAt ∧
      row.kind = Db.eventKindAsStr .sessionEnded ∧
      sessionLog next key = sessionLog db key ++ [row]
  others : ∀ key, key ≠ envelope.key →
    (key.isSentinel = false → ∀ state, live db key state →
      state.lastPid ≠ some pid) →
    next.projection key = db.projection key ∧
      sessionLog next key = sessionLog db key

section Succeeded

variable {envelope : EventEnvelope} {pid : Nat} {db middle next : Db}
variable {nowMs : Int}

theorem Appends.live_ne
    (appends : (WriteRequest.event envelope none).Appends nowMs db middle)
    {key : SessionKey} (other : key ≠ envelope.key) (state : SessionState) :
    live middle key state ↔ live db key state := by
  have apart : ((WriteRequest.event envelope none).columns nowMs).key ≠ key :=
    fun same => other same.symm
  rw [live, live, appends.stored_ne apart]

theorem Appends.log_ne
    (appends : (WriteRequest.event envelope none).Appends nowMs db middle)
    {key : SessionKey} (other : key ≠ envelope.key) :
    sessionLog middle key = sessionLog db key := by
  have apart : ((envelopeColumns envelope nowMs).row (db.eventSeq + 1)).key ≠
      key := fun same => other same.symm
  rw [sessionLog, appends.events, EventLog.ofKey_append]
  exact (congrArg _ (EventLog.ofKey_single_ne apart)).trans
    (List.append_nil _)

theorem Appends.log_self
    (appends : (WriteRequest.event envelope none).Appends nowMs db middle) :
    sessionLog middle envelope.key = sessionLog db envelope.key ++
      [(envelopeColumns envelope nowMs).row (db.eventSeq + 1)] := by
  rw [sessionLog, appends.events, EventLog.ofKey_append]
  exact congrArg _ EventLog.ofKey_single_self

theorem succeeded_of_swept (claims : envelope.pid = some pid)
    (hook : HookKind envelope.kind) (wellFormed : db.WellFormed)
    (dated : ∀ row ∈ db.projections, Timestamped row)
    (appends : (WriteRequest.event envelope none).Appends nowMs db middle)
    (swept : Swept (doomedKeys (superseded envelope.key pid)
      middle.selectNonSentinelSessions) middle next) :
    Succeeded envelope pid db next := by
  have middleFormed := appends.wellFormed wellFormed
  have spared : envelope.key ∉ doomedKeys (superseded envelope.key pid)
      middle.selectNonSentinelSessions := by
    intro doomed
    exact ((mem_superseded middleFormed).mp doomed).2.1 rfl
  have nodup : (doomedKeys (superseded envelope.key pid)
      middle.selectNonSentinelSessions).Nodup :=
    doomedKeys_nodup (present_select middleFormed).2
  exact {
    holder := by
      have self := appends.stored_self
      refine ⟨envelopeTransition envelope (db.stored envelope.key) nowMs,
        ⟨?_, transition_live hook _ _ _ _ _⟩, ?_⟩
      · rw [swept.stored spared]
        exact self
      · simp [envelopeTransition, claims]
    alone := by
      intro key state user alive onPid
      by_contra other
      by_cases doomed : key ∈ doomedKeys (superseded envelope.key pid)
          middle.selectNonSentinelSessions
      · obtain ⟨_, _, _, ended⟩ := swept.ended key doomed
        rw [alive.1] at ended
        exact alive.2 (Option.some.inj ended ▸ rfl)
      · apply doomed
        rw [mem_superseded middleFormed]
        refine ⟨user, other, state, ⟨?_, alive.2⟩, onPid⟩
        rw [← swept.stored doomed]
        exact alive.1
    own := by
      refine ⟨(envelopeColumns envelope nowMs).row (db.eventSeq + 1), rfl, ?_⟩
      rw [swept.log_spared spared, Appends.log_self appends]
    ended := by
      intro key state user other alive onPid
      have doomed : key ∈ doomedKeys (superseded envelope.key pid)
          middle.selectNonSentinelSessions :=
        (mem_superseded middleFormed).mpr ⟨user, other, state,
          (Appends.live_ne appends other state).mpr alive, onPid⟩
      obtain ⟨before, time, was, ended⟩ := swept.ended key doomed
      obtain ⟨row, kind, log⟩ := swept.log_ended nodup doomed
      have same : before = state := by
        have found := ((Appends.live_ne appends other before).mp was).1
        exact Option.some.inj (found.symm.trans alive.1)
      subst same
      obtain ⟨stored, member, _, json⟩ := stored_row alive.1
      exact ⟨_, row, ended, rfl, endedState_lastPid _ _, endedState_cwd _ _,
        endedState_startedAt _ _ (dated stored member before json), kind,
        log.trans (by rw [Appends.log_ne appends other])⟩
    others := by
      intro key other idle
      have safe : key ∉ doomedKeys (superseded envelope.key pid)
          middle.selectNonSentinelSessions := by
        intro doomed
        obtain ⟨user, _, state, alive, onPid⟩ :=
          (mem_superseded middleFormed).mp doomed
        exact idle user state
          ((Appends.live_ne appends other state).mp alive) onPid
      have apart : ((WriteRequest.event envelope none).columns nowMs).key ≠
          key := fun same => other same.symm
      constructor
      · rw [swept.others key safe, appends.projection_ne apart]
      · rw [swept.log_spared safe, Appends.log_ne appends other] }

end Succeeded

/-- After a live write its session is the only one alive on its pid, whatever was
there before; the next one on that pid has nobody left to end. -/
theorem live_write_succeeds_on_pid
    {ok : ProcessConfig → Process → ProcessLabel → Prop} {db : Db}
    (reached : Reached ok db) {envelope : EventEnvelope} {pid : Nat}
    (claims : envelope.pid = some pid) (hook : HookKind envelope.kind)
    (around : Surroundings) (asked : Nat) :
    ∃ eventId next, (write envelope).runWith (Sequential.handle around)
        { db, asked } = (.ok eventId, next) ∧
      Succeeded envelope pid db next.db ∧
      ∀ again : EventEnvelope, again.key = envelope.key →
        again.pid = some pid → HookKind again.kind →
        ∃ row, row.key = envelope.key ∧
          row.kind = Db.eventKindAsStr again.kind ∧
          ((write again).runWith (Sequential.handle around) next).2.db.events =
            next.db.events ++ [row] := by
  obtain ⟨eventId, middle, next, nowMs, ran, appends, swept⟩ :=
    write_swept around claims hook { db, asked } reached.wellFormed
  have succeeded := succeeded_of_swept claims hook reached.wellFormed
    reached.dated appends swept
  refine ⟨eventId, next, ran, succeeded, ?_⟩
  intro again same onPid hook'
  have formed : next.db.WellFormed := by
    have kept := Program.runWith_preserves (Sequential.handle around)
      (fun state => state.db.WellFormed) (fun op state => handle_wellFormed op)
      (write envelope) { db, asked } reached.wellFormed
    rw [ran] at kept
    exact kept
  obtain ⟨_, middle', last, time, ran', appends', swept'⟩ :=
    write_swept around onPid hook' next formed
  have nobody : doomedKeys (superseded again.key pid)
      middle'.selectNonSentinelSessions = [] := by
    refine List.eq_nil_iff_forall_not_mem.mpr fun key doomed => ?_
    obtain ⟨visible, other, state, alive, there⟩ :=
      (mem_superseded (appends'.wellFormed formed)).mp doomed
    have before := (Appends.live_ne appends' other state).mp alive
    exact other ((succeeded.alone key state visible before there).trans
      same.symm)
  rw [nobody] at swept'
  refine ⟨(envelopeColumns again time).row (next.db.eventSeq + 1), same, rfl,
    ?_⟩
  rw [ran', swept'.events_nil, appends'.events]
  rfl

/-- A session that was replayed on the pid, and a hook of another on it. -/
theorem live_write_succeeds_on_pid_replayOnPid :
    ∃ db state next, live db ⟨"claude", "b"⟩ state ∧ state.lastPid = some 7 ∧
      Succeeded (System.bareHook "a" .preToolUse (some 7)) 7 db next := by
  have ⟨final, seen, run, checked⟩ := Machine.exec_check
    ((Process.machine (pidProcess 7)).execMeets_true
      (Process.boot (pidProcess 7).serde.parse FaultPlan.none Db.empty)
      replayOnPid)
    (fun result : Process × List ProcessSeen =>
      decide (∃ state ∈ result.1.system.store.db.stored ⟨"claude", "b"⟩,
        state.lastPid = some 7 ∧ state.currentState ≠ .ended))
    (by decide)
  obtain ⟨state, stored, onPid, alive⟩ := of_decide_eq_true checked
  have reached : Reached (fun _ _ _ => True) final.system.store.db :=
    .run .empty run
  have hookPid : (System.bareHook "a" .preToolUse (some 7)).pid = some 7 := rfl
  obtain ⟨eventId, next, _, succeeded, _⟩ := live_write_succeeds_on_pid
    reached hookPid ⟨rfl, by decide, by decide⟩ steady 0
  exact ⟨_, state, next.db, ⟨stored, alive⟩, onPid, succeeded⟩

end Bowerbird.Daemon
