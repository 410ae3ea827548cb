import Bowerbird.Daemon.History
import Bowerbird.Daemon.Mortality

namespace Bowerbird.Daemon

open Protocol Foundation Projection

/-! A sweep ends sessions by one event each, and leaves everything else as it
was.  Supersession and the liveness probe are two of them. -/

/-- The events of one session, in order. -/
def sessionLog (db : Db) (key : SessionKey) : List Db.EventRow :=
  EventLog.ofKey Db.EventRow.key key db.events

/-- What the end of a session makes of its state. -/
def endedState (state : SessionState) (nowMs : Int) : SessionState :=
  transition (some state) .sessionEnded none state.lastPid none nowMs

section EndedState

variable (state : SessionState) (nowMs : Int)

@[simp] theorem endedState_currentState :
    (endedState state nowMs).currentState = .ended :=
  rfl

@[simp] theorem endedState_lastPid :
    (endedState state nowMs).lastPid = state.lastPid := by
  simp [endedState]

@[simp] theorem endedState_cwd : (endedState state nowMs).cwd = state.cwd := by
  simp [endedState]

/-- A time that is there is kept. -/
theorem endedState_startedAt (dated : state.startedAt.isSome = true) :
    (endedState state nowMs).startedAt = state.startedAt := by
  obtain ⟨time, since⟩ := Option.isSome_iff_exists.mp dated
  simp [endedState, since]

end EndedState

structure Swept (victims : List SessionKey) (before after : Db) : Prop where
  events : ∃ added, after.events = before.events ++ added ∧
    added.map Db.EventRow.key = victims ∧
    ∀ row ∈ added, row.kind = Db.eventKindAsStr .sessionEnded
  ended : ∀ key ∈ victims, ∃ state nowMs, live before key state ∧
    after.stored key = some (endedState state nowMs)
  others : ∀ key, key ∉ victims → after.projection key = before.projection key

section Swept

variable {victims more : List SessionKey} {before middle after : Db}
variable {key : SessionKey}

theorem Swept.refl (db : Db) : Swept [] db db where
  events := ⟨[], by simp, rfl, by simp⟩
  ended := by simp
  others := fun _ _ => rfl

theorem Swept.stored (swept : Swept victims before after)
    (spared : key ∉ victims) : after.stored key = before.stored key := by
  rw [Db.stored, Db.selectSessionProjectionState, swept.others key spared]
  rfl

theorem Swept.trans (early : Swept victims before middle)
    (late : Swept more middle after)
    (apart : ∀ key ∈ victims, key ∉ more) :
    Swept (victims ++ more) before after where
  events := by
    obtain ⟨added, grown, keys, kinds⟩ := early.events
    obtain ⟨later, again, laterKeys, laterKinds⟩ := late.events
    refine ⟨added ++ later, ?_, ?_, ?_⟩
    · rw [again, grown, List.append_assoc]
    · rw [List.map_append, keys, laterKeys]
    · intro row member
      rcases List.mem_append.mp member with member | member
      · exact kinds row member
      · exact laterKinds row member
  ended := by
    intro key member
    rcases List.mem_append.mp member with member | member
    · obtain ⟨state, nowMs, alive, ended⟩ := early.ended key member
      refine ⟨state, nowMs, alive, ?_⟩
      rw [late.stored (apart key member)]
      exact ended
    · obtain ⟨state, nowMs, alive, ended⟩ := late.ended key member
      refine ⟨state, nowMs, ⟨?_, alive.2⟩, ended⟩
      rw [← early.stored fun first => apart key first member]
      exact alive.1
  others := by
    intro key spared
    rw [List.mem_append, not_or] at spared
    rw [late.others key spared.2, early.others key spared.1]

theorem Swept.log_spared (swept : Swept victims before after)
    (spared : key ∉ victims) : sessionLog after key = sessionLog before key := by
  obtain ⟨added, grown, rfl, _⟩ := swept.events
  rw [sessionLog, grown, EventLog.ofKey_append,
    EventLog.ofKey_of_not_mem spared, List.append_nil]
  rfl

/-- One event more, the end. -/
theorem Swept.log_ended (swept : Swept victims before after)
    (nodup : victims.Nodup) (member : key ∈ victims) :
    ∃ row, row.kind = Db.eventKindAsStr .sessionEnded ∧
      sessionLog after key = sessionLog before key ++ [row] := by
  obtain ⟨added, grown, rfl, kinds⟩ := swept.events
  obtain ⟨row, inside, own⟩ := EventLog.ofKey_of_nodup nodup member
  refine ⟨row, kinds row inside, ?_⟩
  rw [sessionLog, grown, EventLog.ofKey_append, own]
  rfl

/-- Nothing is appended when nobody is swept. -/
theorem Swept.events_nil (swept : Swept [] before after) :
    after.events = before.events := by
  obtain ⟨added, grown, keys, _⟩ := swept.events
  rw [grown, List.map_eq_nil_iff.mp keys, List.append_nil]

/-- The rows of a scan, still as they were read. -/
def Present (rows : List Db.ProjectionRow) (db : Db) : Prop :=
  ∀ row ∈ rows, db.projection row.key = some row

/-- Those of the rows that a sweep picks out. -/
def doomedKeys (doomed : Db.ProjectionRow → Bool)
    (rows : List Db.ProjectionRow) : List SessionKey :=
  (rows.filter doomed).map Db.ProjectionRow.key

theorem mem_doomedKeys {doomed : Db.ProjectionRow → Bool}
    {rows : List Db.ProjectionRow} :
    key ∈ doomedKeys doomed rows ↔
      ∃ row ∈ rows, doomed row = true ∧ row.key = key := by
  simp [doomedKeys, and_assoc]

theorem doomedKeys_nodup {doomed : Db.ProjectionRow → Bool}
    {rows : List Db.ProjectionRow}
    (keyed : KeyedTable.Keyed Db.ProjectionRow.key rows) :
    (doomedKeys doomed rows).Nodup :=
  keyed.filter doomed

/-- The step of a sweep over rows with different keys: the first row is ended if
it is doomed, and the rows to come are still as they were read. -/
theorem Swept.cons {doomed : Db.ProjectionRow → Bool} {row : Db.ProjectionRow}
    {rest : List Db.ProjectionRow}
    (keyed : KeyedTable.Keyed Db.ProjectionRow.key (row :: rest))
    (present : Present (row :: rest) before)
    (first : Swept (if doomed row then [row.key] else []) before middle) :
    Present rest middle ∧
      ∀ after, Swept (doomedKeys doomed rest) middle after →
        Swept (doomedKeys doomed (row :: rest)) before after := by
  rw [KeyedTable.Keyed, List.map_cons, List.nodup_cons] at keyed
  constructor
  · intro other member
    rw [first.others, present other (List.mem_cons_of_mem _ member)]
    intro same
    split at same
    · rw [List.mem_singleton] at same
      exact keyed.1 (same ▸ List.mem_map_of_mem member)
    · cases same
  · intro after later
    have whole := first.trans later (by
      intro key member inside
      split at member
      · rw [List.mem_singleton] at member
        obtain ⟨other, here, _, same⟩ := mem_doomedKeys.mp inside
        rw [member] at same
        exact keyed.1 (same ▸ List.mem_map_of_mem here)
      · cases member)
    have keys : doomedKeys doomed (row :: rest) =
        (if doomed row then [row.key] else []) ++ doomedKeys doomed rest := by
      cases picked : doomed row <;> simp [doomedKeys, picked]
    rw [keys]
    exact whole

end Swept

/-! One conditional end, alone. -/

section Alone

variable {around : Surroundings} {state : Sequential}

theorem stored_of_projection {db : Db} {row : Db.ProjectionRow}
    {stored : SessionState} (found : db.projection row.key = some row)
    (parsed : row.state.parse = some stored) :
    db.stored row.key = some stored := by
  simp [Db.stored, Db.selectSessionProjectionState, found, parsed]

variable (around) in
/-- Without a concurrent writer the row is as the scan saw it, and the end of its
session is written. -/
theorem handle_ends {key : SessionKey} {stored : SessionState}
    (alive : live state.db key stored) (reason : EndedReason)
    (observedAtMs : Int) (precondition : WritePrecondition)
    (admits : precondition.admits (some stored) = true) :
    ∃ eventId next, Sequential.handle around
        (.writeInner (endedEnvelope key reason stored.lastPid observedAtMs)
          (some precondition)) state = (.ok (some eventId), next) ∧
      Swept [key] state.db next.db := by
  have named : (endedEnvelope key reason stored.lastPid observedAtMs).key =
      key := rfl
  have outcome : ∃ written next,
      (WriteRequest.event (endedEnvelope key reason stored.lastPid observedAtMs)
        (some precondition)).outcome (around.clock state.asked) state.db =
          (.ok (.written written), some next) := by
    simp only [WriteRequest.outcome, preconditionAdmits, named, alive.1,
      Option.all_some, admits, if_true]
    exact ⟨_, _, rfl⟩
  obtain ⟨written, next, outcome⟩ := outcome
  have appends := WriteRequest.outcome_appends (congrArg Prod.snd outcome)
  refine ⟨written.eventId, ⟨next, state.asked + 1⟩, ?_, ?_, ?_, ?_⟩
  · have accepted : (endedEnvelope key reason stored.lastPid
        observedAtMs).kind.isRecording = false := rfl
    simp [Sequential.handle, accepted, transact_eq, outcome]
  · refine ⟨_, appends.events, rfl, ?_⟩
    intro row member
    rw [List.mem_singleton.mp member]
    rfl
  · intro other member
    rw [List.mem_singleton.mp member]
    refine ⟨stored, around.clock state.asked, alive, ?_⟩
    have self := appends.stored_self
    simp only [WriteRequest.stateText, Db.StateText.parse, named,
      alive.1] at self
    exact self
  · intro other spared
    apply appends.projection_ne
    intro same
    exact spared (List.mem_singleton.mpr (same.symm.trans named))

theorem handle_wellFormed (op : Op) (wellFormed : state.db.WellFormed) :
    (Sequential.handle around op state).2.db.WellFormed := by
  have transacts (request : WriteRequest) :
      (state.transact around request).2.db.WellFormed := by
    rw [transact_eq]
    dsimp only
    cases outcome : (request.outcome (around.clock state.asked)
        state.db).2 with
    | none => exact wellFormed
    | some next =>
        exact (WriteRequest.outcome_appends outcome).wellFormed wellFormed
  cases op with
  | writeInner envelope precondition =>
      by_cases recording : envelope.kind.isRecording = true
      · simpa [Sequential.handle, recording] using wellFormed
      · rw [handle_write envelope precondition (by simpa using recording)]
        exact transacts _
  | writeRecordingStarted => exact transacts .recordingStarted
  | writeRecordingEnded recordingSessionId =>
      exact transacts (.recordingEnded recordingSessionId)
  | selectNonSentinelSessions | currentUnixMillis | kill | isCancelled =>
      exact wellFormed

/-- What a scan reads is what is there. -/
theorem present_select {db : Db} (wellFormed : db.WellFormed) :
    Present db.selectNonSentinelSessions db ∧
      KeyedTable.Keyed Db.ProjectionRow.key db.selectNonSentinelSessions := by
  constructor
  · intro row member
    exact KeyedTable.lookup_of_mem wellFormed.keyed
      (Db.mem_selectNonSentinelSessions.mp member).1
  · exact Db.selectNonSentinelSessions_keyed wellFormed.keyed

end Alone

/-! Every state that is ever stored says when its session has started. -/

def Timestamped (row : Db.ProjectionRow) : Prop :=
  ∀ state, row.state = .json state → state.startedAt.isSome = true

theorem transition_dated (prev : Option SessionState) (kind : EventKind)
    (notificationType : Option NotificationType) (pid : Option Nat)
    (cwd : Option String) (nowMs : Int) :
    (transition prev kind notificationType pid cwd
      nowMs).startedAt.isSome = true := by
  rw [transition_startedAt, Option.isSome_or]
  simp

theorem timestamped_passedOn : PassedOn (fun _ => True) Timestamped where
  ends := fun _ _ _ => trivial
  writes := by
    rintro envelope db nowMs _ _ state ⟨rfl⟩
    exact transition_dated _ _ _ _ _ _
  marks := by
    rintro nowMs state ⟨⟩

theorem replayRows_dated {parseValue : String → Option Json.Value}
    {rows : List Db.EventRow} {state after : Option SessionState}
    {last time : Int}
    (before : ∀ prev, state = some prev → prev.startedAt.isSome = true)
    (replayed : replayRows parseValue state last rows = some (after, time)) :
    ∀ next, after = some next → next.startedAt.isSome = true := by
  induction rows generalizing state last with
  | nil =>
      cases replayed
      exact before
  | cons row rest induction =>
      rw [replayRows] at replayed
      split at replayed
      · cases replayed
      · refine induction ?_ replayed
        rintro _ ⟨rfl⟩
        exact transition_dated _ _ _ _ _ _

theorem Reached.dated {ok : ProcessConfig → Process → ProcessLabel → Prop}
    {db : Db} (reached : Reached ok db) :
    ∀ row ∈ db.projections, Timestamped row := by
  induction reached with
  | empty =>
      intro row member
      cases member
  | @run config faults db final seen before ran induction =>
      refine (Process.flows_of_lets ran
        (fun process label _ => Process.lets_true process label) timestamped_passedOn
        ?_).rows
      refine opened_rows before.wellFormed induction ?_
      intro key row rebuilt state json
      unfold rebuiltRow at rebuilt
      split at rebuilt
      · rename_i last replayed
        rw [← Option.some.inj rebuilt] at json
        cases json
        exact replayRows_dated (by rintro _ ⟨⟩) replayed state rfl
      · cases rebuilt

end Bowerbird.Daemon
