import Bowerbird.Api.Filter
import Bowerbird.Db.Queries
import Bowerbird.Projection.Publication

namespace Bowerbird.Api

open Protocol Foundation Projection

/-! The two read endpoints that a client recovers from. -/

inductive RestError where
  | badRequest (error : String)
  /-- A bad request too; the text quotes the token. -/
  | badState (error : TokenError)
  | notFound (error : String)
  | internal (error : String)
  deriving Repr, DecidableEq

def internalError : RestError := .internal "internal error"

/-! `GET /sessions` -/

structure SessionsParams where
  state : Option String := none
  since : Int := 0
  limit : Option Int := none
  deriving Repr, DecidableEq

structure SessionListItem where
  source : String
  sessionId : String
  currentState : SessionCurrentState
  lastEventKind : EventKind
  lastEventAtMs : Int
  updatedAt : Int
  lastPid : Option Nat
  cwd : Option String
  startedAt : Option Int
  deriving Repr, DecidableEq

/-- Only an absent parameter means no filter: an empty text is one empty token. -/
def parseStateFilter (raw : String) :
    Except TokenError (List SessionCurrentState) :=
  ((raw.toList.splitOn ',').map String.ofList).mapM parseStateToken

example : parseStateFilter "working,IDLE" = .ok [.working, .idle] := by decide

example : parseStateFilter "working," = .error (.unaccepted "") := by decide

namespace Sessions

def item (stateFilter : List SessionCurrentState) (nowMs : Int)
    (row : Db.ProjectionRow) : Option SessionListItem :=
  match row.state.parse with
  | none => none
  | some stored =>
      let currentState := currentStateForRead stored nowMs
      if stateMatches stateFilter currentState then
        some {
          source := row.source
          sessionId := row.sessionId
          currentState
          lastEventKind := stored.lastEventKind
          lastEventAtMs := stored.lastEventAtMs
          updatedAt := row.updatedAt
          lastPid := stored.lastPid
          cwd := stored.cwd
          startedAt := stored.startedAt }
      else none

def stateFilter (params : SessionsParams) :
    Except RestError (List SessionCurrentState) :=
  match params.state with
  | none => .ok []
  | some raw =>
      match parseStateFilter raw with
      | .ok filter => .ok filter
      | .error error => .error (.badState error)

/-- The query fails without the database, or the clock after it. -/
def list (params : SessionsParams) (db : Option Db) (clock : Option Int) :
    Except RestError (List SessionListItem) := do
  let filter ← stateFilter params
  if params.since < 0 then
    throw (.badRequest "since must be a non-negative epoch-ms integer")
  else if params.limit.any (· ≤ 0) then
    throw (.badRequest "limit must be a positive integer")
  else
    match db with
    | none => throw internalError
    | some db =>
        let rows := db.selectSessions params.since
          (params.limit.map Int.toNat)
        match clock with
        | none => throw internalError
        | some nowMs => return rows.filterMap (item filter nowMs)

end Sessions

/-! `GET /sessions/{id}/events` -/

structure EventListResponse where
  events : List Event
  cursor : Option Int
  oldestAvailableEventId : Int
  deriving Repr, DecidableEq

namespace Events

/-- A row whose kind or reaction cannot be read is skipped. -/
def ofRow (row : Db.EventRow) : Option Event :=
  match Db.eventKindFromDbStr row.kind with
  | none => none
  | some kind =>
      match row.reaction.mapM Db.reactionFromDbString with
      | none => none
      | some reaction =>
          some {
            eventId := row.eventId
            source := row.source
            sessionId := row.sessionId
            kind
            reaction
            payload := row.payload
            createdAt := row.createdAt
            pid := row.pid
            cwd := row.cwd }

def list (sessionId : String) (since : Int) (db : Option Db) :
    Except RestError EventListResponse :=
  match db with
  | none => .error internalError
  | some db =>
      if db.selectSessionExistsById sessionId then
        let events :=
          (db.selectEventsForSessionSince sessionId since).filterMap ofRow
        .ok {
          events
          cursor := events.getLast?.map (·.eventId)
          oldestAvailableEventId := db.selectMinEventId.getD i64Max }
      else .error (.notFound "session not found")

/-- The answer for a session that is there. -/
def page (db : Db) (sessionId : String) (since : Int) : EventListResponse :=
  let events := (db.selectEventsForSessionSince sessionId since).filterMap ofRow
  { events
    cursor := events.getLast?.map (·.eventId)
    oldestAvailableEventId := db.selectMinEventId.getD i64Max }

/-- An event of the history that a reader may see. -/
def Listed (db : Db) (event : Event) : Prop :=
  ∃ row ∈ db.events, row.source ≠ "__daemon__" ∧ ofRow row = some event

instance (db : Db) (event : Event) : Decidable (Listed db event) :=
  inferInstanceAs (Decidable (∃ row ∈ db.events, _ ∧ _))

section Listed

variable {db : Db} {event : Event} {row : Db.EventRow}

theorem ofRow_fields (read : ofRow row = some event) :
    event.eventId = row.eventId ∧ event.source = row.source ∧
      event.sessionId = row.sessionId := by
  unfold ofRow at read
  split at read
  · cases read
  · split at read
    · cases read
    · cases read
      exact ⟨rfl, rfl, rfl⟩

/-- Whatever is committed can be read back as it was published. -/
@[simp] theorem ofRow_eventRow (event : Event) :
    ofRow (eventRow event) = some event := by
  obtain ⟨eventId, source, sessionId, kind, reaction, payload, createdAt, pid,
    cwd⟩ := event
  cases reaction with
  | none => simp [ofRow, eventRow]
  | some reaction => simp [ofRow, eventRow]

theorem list_ok {sessionId : String} {since : Int} {db : Option Db}
    {response : EventListResponse}
    (answered : list sessionId since db = .ok response) :
    ∃ open_, db = some open_ ∧
      open_.selectSessionExistsById sessionId = true ∧
      response.events =
        (open_.selectEventsForSessionSince sessionId since).filterMap ofRow ∧
      response.cursor = response.events.getLast?.map (·.eventId) := by
  unfold list at answered
  split at answered
  · cases answered
  · rename_i open_
    split at answered
    · rename_i present
      cases answered
      exact ⟨open_, rfl, present, rfl, rfl⟩
    · cases answered

theorem list_page {sessionId : String} (since : Int)
    (present : db.selectSessionExistsById sessionId = true) :
    list sessionId since (some db) = .ok (page db sessionId since) :=
  if_pos present

theorem list_found {sessionId : String} (since : Int)
    (present : db.selectSessionExistsById sessionId = true) :
    ∃ response, list sessionId since (some db) = .ok response ∧
      response.events =
        (db.selectEventsForSessionSince sessionId since).filterMap ofRow :=
  ⟨_, list_page since present, rfl⟩

theorem mem_events {sessionId : String} {since : Int} :
    event ∈ (db.selectEventsForSessionSince sessionId since).filterMap ofRow ↔
      Listed db event ∧ event.sessionId = sessionId ∧ since < event.eventId := by
  rw [List.mem_filterMap]
  constructor
  · intro found
    obtain ⟨row, selected, read⟩ := found
    simp only [Db.selectEventsForSessionSince, List.mem_filter, Bool.and_eq_true,
      decide_eq_true_eq] at selected
    obtain ⟨member, ⟨user, own⟩, later⟩ := selected
    obtain ⟨id, _, session⟩ := ofRow_fields read
    exact ⟨⟨row, member, user, read⟩, session.trans own, id ▸ later⟩
  · intro listed
    obtain ⟨⟨row, member, user, read⟩, own, later⟩ := listed
    obtain ⟨id, _, session⟩ := ofRow_fields read
    refine ⟨row, ?_, read⟩
    simp only [Db.selectEventsForSessionSince, List.mem_filter, Bool.and_eq_true,
      decide_eq_true_eq]
    exact ⟨member, ⟨user, session ▸ own⟩, id ▸ later⟩

/-- Whatever is announced of a user's session is in the history of its session,
which the database knows. -/
theorem listed_of_published {Owner : Type} {start final : Store Owner}
    {seen : List (StoreSeen Owner)} (ledger : Ledger start final seen)
    (announced : .event event ∈ published seen ++ final.owed)
    (user : event.source ≠ "__daemon__") :
    Listed final.db event ∧
      final.db.selectSessionExistsById event.sessionId = true := by
  obtain ⟨commit, member, emits⟩ := ledger.announced_event announced
  have row := Commit.row_event emits
  constructor
  · refine ⟨eventRow event, ?_, user, ofRow_eventRow event⟩
    rw [ledger.chained.events, ← row]
    exact List.mem_append_right _ (List.mem_map_of_mem member)
  · obtain ⟨present, found⟩ := Option.isSome_iff_exists.mp
      (ledger.chained.committed_projection member)
    have key : present.key = ⟨event.source, event.sessionId⟩ := by
      rw [KeyedTable.lookup_key found]
      exact congrArg Db.EventRow.key row
    refine List.any_eq_true.mpr ⟨present, KeyedTable.lookup_mem found, ?_⟩
    have source : present.source = event.source := congrArg (·.source) key
    have session : present.sessionId = event.sessionId :=
      congrArg (·.sessionId) key
    simp [source, session, user]

/-- A listed event is in the answer for any earlier id. -/
theorem list_returns {since : Int} (listed : Listed db event)
    (present : db.selectSessionExistsById event.sessionId = true)
    (later : since < event.eventId) :
    ∃ response, list event.sessionId since (some db) = .ok response ∧
      event ∈ response.events := by
  obtain ⟨response, answered, events⟩ := list_found since present
  refine ⟨response, answered, ?_⟩
  rw [events]
  exact mem_events.mpr ⟨listed, rfl, later⟩

end Listed

end Events

end Bowerbird.Api
