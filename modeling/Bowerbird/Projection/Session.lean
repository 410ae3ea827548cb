import Bowerbird.Broadcast.Event
import Bowerbird.Db.Schema
import Bowerbird.Foundation.Transaction
import Bowerbird.Projection.State

namespace Bowerbird.Projection

open Protocol Foundation

/-! The writer's transactions.  Each one appends a single row to `events` and
upserts the row of its session, or leaves the database alone. -/

inductive SqlError where
  | sqlite
  | queryReturnedNoRows
  deriving Repr, DecidableEq

inductive Error where
  | sqlite (error : SqlError)
  | pool
  | clock
  | projection (text : String)
  deriving Repr, DecidableEq

/-- The guard of a conditional write: the row is still what its caller saw. -/
structure WritePrecondition where
  expectedCurrentState : SessionCurrentState
  expectedLastPid : Option Nat
  expectedLastEventAtMs : Option Int
  deriving Repr, DecidableEq

def WritePrecondition.admits (precondition : WritePrecondition) :
    Option SessionState → Bool
  | some state =>
      state.currentState == precondition.expectedCurrentState &&
        state.lastPid == precondition.expectedLastPid &&
        precondition.expectedLastEventAtMs.all (state.lastEventAtMs == ·)
  | none => false

def preconditionAdmits (precondition : Option WritePrecondition)
    (prevState : Option SessionState) : Bool :=
  precondition.all (·.admits prevState)

/-- What the transaction hands to the publication step. -/
structure Written where
  eventId : Int
  newState : SessionState
  prevRawCurrentState : Option SessionCurrentState
  prevReadCurrentState : Option SessionCurrentState
  deriving Repr, DecidableEq

inductive Outcome where
  | written (written : Written)
  | skipped
  | recordingStarted (eventId recordingSessionId : Int)
  | recordingEnded (eventId : Int)
  deriving Repr, DecidableEq

/-- Whether a transaction with this result has committed. -/
def committing : Except SqlError Outcome → Bool
  | .ok .skipped | .error _ => false
  | .ok _ => true

def envelopeColumns (envelope : EventEnvelope) (nowMs : Int) :
    Db.EventColumns :=
  { source := envelope.source
    sessionId := envelope.sessionId
    kind := Db.eventKindAsStr envelope.kind
    reaction := envelope.reaction.map Db.reactionAsDbString
    payload := envelope.payload
    createdAt := nowMs
    pid := envelope.pid
    cwd := envelope.cwd }

def envelopeTransition (envelope : EventEnvelope)
    (prevState : Option SessionState) (nowMs : Int) : SessionState :=
  transition prevState envelope.kind envelope.notificationType envelope.pid
    envelope.cwd nowMs

/-- The closure of `write_inner`: read, check, upsert, insert, commit. -/
def writeInnerTransaction (envelope : EventEnvelope)
    (precondition : Option WritePrecondition) (nowMs : Int) :
    Tx Db SqlError Outcome := do
  Tx.execute .sqlite id
  let raw ← Tx.query .sqlite (Db.selectSessionProjectionState envelope.key)
  let prevState := raw.bind Db.StateText.parse
  if preconditionAdmits precondition prevState then do
    let newState := envelopeTransition envelope prevState nowMs
    Tx.execute .sqlite
      (Db.upsertSessionProjection envelope.key (.json newState) nowMs)
    let eventId ← Tx.statement .sqlite
      (Db.insertEvent (envelopeColumns envelope nowMs))
    Tx.commit .sqlite
    return .written {
      eventId
      newState
      prevRawCurrentState := prevState.map SessionState.currentState
      prevReadCurrentState := prevState.map (currentStateForRead · nowMs) }
  else return .skipped

def emptyPayload : String := "\x7b\x7d"

def sentinelKey : SessionKey :=
  ⟨daemonSentinelSource, daemonSentinelSession⟩

def sentinelColumns (kind : EventKind) (nowMs : Int) : Db.EventColumns :=
  { source := daemonSentinelSource
    sessionId := daemonSentinelSession
    kind := Db.eventKindAsStr kind
    reaction := none
    payload := emptyPayload
    createdAt := nowMs
    pid := none
    cwd := none }

def writeRecordingStartedTransaction (nowMs : Int) : Tx Db SqlError Outcome := do
  Tx.execute .sqlite id
  Tx.execute .sqlite
    (Db.upsertSessionProjection sentinelKey (.other emptyPayload) nowMs)
  let eventId ← Tx.statement .sqlite
    (Db.insertEvent (sentinelColumns .recordingStarted nowMs))
  let recordingSessionId ← Tx.statement .sqlite
    (Db.insertRecordingSessionStarted eventId)
  Tx.commit .sqlite
  return .recordingStarted eventId recordingSessionId

def writeRecordingEndedTransaction (recordingSessionId nowMs : Int) :
    Tx Db SqlError Outcome := do
  Tx.execute .sqlite id
  Tx.execute .sqlite
    (Db.upsertSessionProjection sentinelKey (.other emptyPayload) nowMs)
  let eventId ← Tx.statement .sqlite
    (Db.insertEvent (sentinelColumns .recordingEnded nowMs))
  let rows ← Tx.statement .sqlite
    (Db.updateRecordingSessionEnded eventId recordingSessionId)
  if rows ≠ 1 then Tx.raise .queryReturnedNoRows
  else do
    Tx.commit .sqlite
    return .recordingEnded eventId

inductive WriteRequest where
  | event (envelope : EventEnvelope) (precondition : Option WritePrecondition)
  | recordingStarted
  | recordingEnded (recordingSessionId : Int)
  deriving Repr, DecidableEq

namespace WriteRequest

def transaction : WriteRequest → Int → Tx Db SqlError Outcome
  | .event envelope precondition, nowMs =>
      writeInnerTransaction envelope precondition nowMs
  | .recordingStarted, nowMs => writeRecordingStartedTransaction nowMs
  | .recordingEnded recordingSessionId, nowMs =>
      writeRecordingEndedTransaction recordingSessionId nowMs

/-- The event row that a request inserts, but for its id. -/
def columns : WriteRequest → Int → Db.EventColumns
  | .event envelope _, nowMs => envelopeColumns envelope nowMs
  | .recordingStarted, nowMs => sentinelColumns .recordingStarted nowMs
  | .recordingEnded _, nowMs => sentinelColumns .recordingEnded nowMs

/-- The state text that a request leaves in the row of its session. -/
def stateText (request : WriteRequest) (nowMs : Int) (db : Db) : Db.StateText :=
  match request with
  | .event envelope _ =>
      .json (envelopeTransition envelope (db.stored envelope.key) nowMs)
  | .recordingStarted | .recordingEnded _ => .other emptyPayload

/-- What a request does when no statement fails: its result and, if it commits,
the database it leaves. -/
def outcome (request : WriteRequest) (nowMs : Int) (db : Db) :
    Except SqlError Outcome × Option Db :=
  let upserted := db.upsertSessionProjection (request.columns nowMs).key
    (request.stateText nowMs db) nowMs
  let (eventId, inserted) := upserted.insertEvent (request.columns nowMs)
  match request with
  | .event envelope precondition =>
      let prevState := db.stored envelope.key
      if preconditionAdmits precondition prevState then
        (.ok (.written {
            eventId
            newState := envelopeTransition envelope prevState nowMs
            prevRawCurrentState := prevState.map SessionState.currentState
            prevReadCurrentState :=
              prevState.map (currentStateForRead · nowMs) }),
          some inserted)
      else (.ok .skipped, none)
  | .recordingStarted =>
      let (recordingSessionId, next) :=
        inserted.insertRecordingSessionStarted eventId
      (.ok (.recordingStarted eventId recordingSessionId), some next)
  | .recordingEnded recordingSessionId =>
      let (rows, next) :=
        inserted.updateRecordingSessionEnded eventId recordingSessionId
      if rows ≠ 1 then (.error .queryReturnedNoRows, none)
      else (.ok (.recordingEnded eventId), some next)

/-- The closure of a request does the whole of its outcome, or fails and does
nothing. -/
theorem transaction_settles (request : WriteRequest) (nowMs : Int) :
    Tx.Settles (request.transaction nowMs) (request.outcome nowMs) := by
  cases request with
  | event envelope precondition =>
      refine Tx.Settles.congr
        (Tx.Settles.after (Tx.Prepares.execute _ _) fun _ =>
          Tx.Settles.after (Tx.Prepares.query _ _) fun raw =>
            Tx.Settles.ite
              (Tx.Settles.after (Tx.Prepares.execute _ _) fun _ =>
                Tx.Settles.after (Tx.Prepares.statement _ _) fun _ =>
                  Tx.Settles.commit _ _)
              (Tx.Prepares.settles (Tx.Prepares.pure _))) fun db => ?_
      rfl
  | recordingStarted =>
      refine Tx.Settles.congr
        (Tx.Settles.after (Tx.Prepares.execute _ _) fun _ =>
          Tx.Settles.after (Tx.Prepares.execute _ _) fun _ =>
            Tx.Settles.after (Tx.Prepares.statement _ _) fun _ =>
              Tx.Settles.after (Tx.Prepares.statement _ _) fun _ =>
                Tx.Settles.commit _ _) fun db => ?_
      rfl
  | recordingEnded recordingSessionId =>
      refine Tx.Settles.congr
        (Tx.Settles.after (Tx.Prepares.execute _ _) fun _ =>
          Tx.Settles.after (Tx.Prepares.execute _ _) fun _ =>
            Tx.Settles.after (Tx.Prepares.statement _ _) fun _ =>
              Tx.Settles.after (Tx.Prepares.statement _ _) fun rows =>
                Tx.Settles.ite (Tx.Settles.raise _)
                  (Tx.Settles.commit _ _)) fun db => ?_
      rfl

/-- A request either commits with a result or leaves nothing behind. -/
theorem outcome_split (request : WriteRequest) (nowMs : Int) (db : Db) :
    (∃ result next, request.outcome nowMs db = (result, some next) ∧
        committing result = true) ∨
      ∃ result, request.outcome nowMs db = (result, none) ∧
        committing result = false := by
  cases request with
  | event envelope precondition =>
      simp only [outcome]
      split
      · exact .inl ⟨_, _, rfl, rfl⟩
      · exact .inr ⟨_, rfl, rfl⟩
  | recordingStarted => exact .inl ⟨_, _, rfl, rfl⟩
  | recordingEnded recordingSessionId =>
      simp only [outcome]
      split
      · exact .inr ⟨_, rfl, rfl⟩
      · exact .inl ⟨_, _, rfl, rfl⟩

theorem outcome_unconditional (envelope : EventEnvelope) (nowMs : Int)
    (db : Db) :
    ∃ written next, (WriteRequest.event envelope none).outcome nowMs db =
      (.ok (.written written), some next) :=
  ⟨_, _, rfl⟩

/-- All that a committing request changes in the two tables of the event log. -/
structure Appends (request : WriteRequest) (nowMs : Int) (db next : Db) :
    Prop where
  events : next.events =
    db.events ++ [(request.columns nowMs).row (db.eventSeq + 1)]
  eventSeq : next.eventSeq = db.eventSeq + 1
  projections : next.projections =
    (db.upsertSessionProjection (request.columns nowMs).key
      (request.stateText nowMs db) nowMs).projections

theorem outcome_appends {request : WriteRequest} {nowMs : Int} {db next : Db}
    (commits : (request.outcome nowMs db).2 = some next) :
    request.Appends nowMs db next := by
  cases request with
  | event envelope precondition =>
      simp only [outcome] at commits
      split at commits
      · cases commits
        exact ⟨rfl, rfl, rfl⟩
      · cases commits
  | recordingStarted =>
      cases commits
      exact ⟨rfl, rfl, rfl⟩
  | recordingEnded recordingSessionId =>
      simp only [outcome] at commits
      split at commits
      · cases commits
      · cases commits
        exact ⟨rfl, rfl, rfl⟩

section Appends

variable {request : WriteRequest} {nowMs : Int} {db next : Db}

theorem columns_createdAt : (request.columns nowMs).createdAt = nowMs := by
  cases request <;> rfl

theorem Appends.projection_self (appends : request.Appends nowMs db next) :
    next.projection (request.columns nowMs).key =
      some { source := (request.columns nowMs).key.source
             sessionId := (request.columns nowMs).key.sessionId
             state := request.stateText nowMs db
             updatedAt := nowMs } := by
  rw [Db.projection, appends.projections]
  exact Db.projection_upsert_self _ _ _ _

theorem Appends.projection_ne (appends : request.Appends nowMs db next)
    {key : SessionKey} (distinct : (request.columns nowMs).key ≠ key) :
    next.projection key = db.projection key := by
  rw [Db.projection, appends.projections]
  exact Db.projection_upsert_ne _ _ _ distinct

theorem Appends.stored_self (appends : request.Appends nowMs db next) :
    next.stored (request.columns nowMs).key =
      (request.stateText nowMs db).parse := by
  rw [Db.stored, Db.selectSessionProjectionState, appends.projection_self]
  rfl

theorem Appends.stored_ne (appends : request.Appends nowMs db next)
    {key : SessionKey} (distinct : (request.columns nowMs).key ≠ key) :
    next.stored key = db.stored key := by
  rw [Db.stored, Db.selectSessionProjectionState,
    appends.projection_ne distinct]
  rfl

theorem Appends.wellFormed (appends : request.Appends nowMs db next)
    (wellFormed : db.WellFormed) : next.WellFormed where
  ascending := by
    rw [appends.events, List.pairwise_append]
    refine ⟨wellFormed.ascending, List.pairwise_singleton _ _, ?_⟩
    intro row member other last
    rw [List.mem_singleton] at last
    subst last
    exact Int.lt_add_one_of_le (wellFormed.within row member)
  within := by
    intro row member
    rw [appends.events, List.mem_append, List.mem_singleton] at member
    rw [appends.eventSeq]
    rcases member with member | rfl
    · exact Int.le_of_lt (Int.lt_add_one_of_le (wellFormed.within row member))
    · exact le_refl _
  keyed := by
    rw [appends.projections]
    exact wellFormed.keyed.upsert _
  sourced := by
    intro row member
    rw [appends.projections] at member
    rw [appends.events]
    rcases KeyedTable.mem_upsert member with rfl | member
    · exact ⟨(request.columns nowMs).row (db.eventSeq + 1), by simp, rfl⟩
    · obtain ⟨event, source, same⟩ := wellFormed.sourced row member
      exact ⟨event, by simp [source], same⟩

end Appends

end WriteRequest

/-! The publication step: what a finished write owes the subscribers. -/

def envelopeEvent (envelope : EventEnvelope) (eventId nowMs : Int) : Event :=
  { eventId
    source := envelope.source
    sessionId := envelope.sessionId
    kind := envelope.kind
    reaction := envelope.reaction
    payload := envelope.payload
    createdAt := nowMs
    pid := envelope.pid
    cwd := envelope.cwd }

def stateChanged (written : Written) : Bool :=
  written.prevRawCurrentState != some written.newState.currentState ||
    written.prevReadCurrentState != some written.newState.currentState

def announcements (request : WriteRequest) (nowMs : Int)
    (result : Except SqlError Outcome) : List BroadcastEnvelope :=
  match request, result with
  | .event envelope _, .ok (.written written) =>
      .event (envelopeEvent envelope written.eventId nowMs) ::
        if stateChanged written then
          [.state envelope.source envelope.sessionId written.newState]
        else []
  | _, _ => []

/-- Kinds of the daemon's own lifecycle never pass through `write_inner`. -/
def sentinelKindRefused : WriteRequest → Bool
  | .event envelope _ => envelope.kind.isRecording
  | _ => false

end Bowerbird.Projection
