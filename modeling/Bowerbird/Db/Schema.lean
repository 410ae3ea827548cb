import Bowerbird.Protocol.Event
import Bowerbird.Db.Codec
import Bowerbird.Foundation.KeyedTable
import Mathlib.Data.List.Dedup
import Mathlib.Data.List.Sort

namespace Bowerbird.Db

open Protocol Foundation

/-! The three tables.  Rows stand in the order of their integer keys; the two
sequences are the AUTOINCREMENT counters, which never go back. -/

structure EventRow where
  eventId : Int
  source : String
  sessionId : String
  kind : String
  reaction : Option String
  payload : String
  createdAt : Int
  pid : Option Nat
  cwd : Option String
  deriving Repr, DecidableEq

def EventRow.key (row : EventRow) : SessionKey :=
  ⟨row.source, row.sessionId⟩

/-- The `state` column: the JSON of a session state, or any other text. -/
inductive StateText where
  | json (state : SessionState)
  | other (text : String)
  deriving Repr, DecidableEq

def StateText.parse : StateText → Option SessionState
  | .json state => some state
  | .other _ => none

structure ProjectionRow where
  source : String
  sessionId : String
  state : StateText
  updatedAt : Int
  deriving Repr, DecidableEq

def ProjectionRow.key (row : ProjectionRow) : SessionKey :=
  ⟨row.source, row.sessionId⟩

structure RecordingRow where
  id : Int
  startedEventId : Int
  endedEventId : Option Int
  deriving Repr, DecidableEq

end Db

structure Db where
  events : List Db.EventRow
  eventSeq : Int
  projections : List Db.ProjectionRow
  recordings : List Db.RecordingRow
  recordingSeq : Int
  deriving Repr, DecidableEq

namespace Db

open Protocol Foundation

def empty : Db :=
  { events := [], eventSeq := 0, projections := [], recordings := [],
    recordingSeq := 0 }

/-- What an INSERT into `events` binds. -/
structure EventColumns where
  source : String
  sessionId : String
  kind : String
  reaction : Option String
  payload : String
  createdAt : Int
  pid : Option Nat
  cwd : Option String
  deriving Repr, DecidableEq

def EventColumns.key (columns : EventColumns) : SessionKey :=
  ⟨columns.source, columns.sessionId⟩

def EventColumns.row (columns : EventColumns) (eventId : Int) : EventRow :=
  { eventId
    source := columns.source
    sessionId := columns.sessionId
    kind := columns.kind
    reaction := columns.reaction
    payload := columns.payload
    createdAt := columns.createdAt
    pid := columns.pid
    cwd := columns.cwd }

@[simp] theorem EventColumns.key_row (columns : EventColumns)
    (eventId : Int) : (columns.row eventId).key = columns.key :=
  rfl

/-! The SQL statements, each as one function of the database. -/

/-- `INSERT_EVENT`, with `last_insert_rowid`. -/
def insertEvent (columns : EventColumns) (db : Db) : Int × Db :=
  let eventId := db.eventSeq + 1
  (eventId, { db with
    events := db.events ++ [columns.row eventId]
    eventSeq := eventId })

/-- `UPSERT_SESSION_PROJECTION` -/
def upsertSessionProjection (key : SessionKey) (state : StateText)
    (updatedAt : Int) (db : Db) : Db :=
  { db with
    projections := KeyedTable.upsert ProjectionRow.key
      { source := key.source, sessionId := key.sessionId, state, updatedAt }
      db.projections }

/-- `INSERT_RECORDING_SESSION_STARTED`, with `last_insert_rowid`. -/
def insertRecordingSessionStarted (eventId : Int) (db : Db) : Int × Db :=
  let id := db.recordingSeq + 1
  (id, { db with
    recordings := db.recordings ++
      [{ id, startedEventId := eventId, endedEventId := none }]
    recordingSeq := id })

/-- `UPDATE_RECORDING_SESSION_ENDED`, with the number of rows changed. -/
def updateRecordingSessionEnded (eventId : Int) (recordingSessionId : Int)
    (db : Db) : Nat × Db :=
  ((db.recordings.filter fun row => row.id = recordingSessionId).length,
    { db with
      recordings := db.recordings.map fun row =>
        if row.id = recordingSessionId then
          { row with endedEventId := some eventId }
        else row })

/-- The projection row of a session. -/
def projection (db : Db) (key : SessionKey) : Option ProjectionRow :=
  KeyedTable.lookup ProjectionRow.key key db.projections

/-- `SELECT_SESSION_PROJECTION_STATE` -/
def selectSessionProjectionState (key : SessionKey) (db : Db) :
    Option StateText :=
  (db.projection key).map (·.state)

/-- `SELECT_DISTINCT_SESSIONS_FROM_EVENTS` -/
def selectDistinctSessionsFromEvents (db : Db) : List SessionKey :=
  ((db.events.filter fun row => row.source ≠ "__daemon__").map EventRow.key).dedup

/-- `SELECT_EVENT_KINDS_FOR_SESSION`: rows stand in ascending order of id. -/
def selectEventKindsForSession (key : SessionKey) (db : Db) : List EventRow :=
  db.events.filter fun row => row.key = key

/-- `ORDER BY updated_at DESC, source ASC, session_id ASC` -/
def newestFirst (first second : ProjectionRow) : Prop :=
  second.updatedAt < first.updatedAt ∨
    first.updatedAt = second.updatedAt ∧
      (first.source < second.source ∨
        first.source = second.source ∧ first.sessionId ≤ second.sessionId)

instance (first second : ProjectionRow) : Decidable (newestFirst first second) :=
  inferInstanceAs (Decidable (_ ∨ _))

/-- `SELECT_NON_SENTINEL_SESSIONS` -/
def selectNonSentinelSessions (db : Db) : List ProjectionRow :=
  (db.projections.filter fun row => row.source ≠ "__daemon__").insertionSort
    newestFirst

@[simp] theorem mem_selectNonSentinelSessions {db : Db} {row : ProjectionRow} :
    row ∈ db.selectNonSentinelSessions ↔
      row ∈ db.projections ∧ row.source ≠ "__daemon__" := by
  simp [selectNonSentinelSessions, List.mem_insertionSort]

theorem selectNonSentinelSessions_keyed {db : Db}
    (keyed : KeyedTable.Keyed ProjectionRow.key db.projections) :
    KeyedTable.Keyed ProjectionRow.key db.selectNonSentinelSessions :=
  (keyed.filter _).perm (List.perm_insertionSort _ _).symm

/-- The state a writer sees for a session: nothing when there is no row or its
text does not parse. -/
def stored (db : Db) (key : SessionKey) : Option SessionState :=
  (db.selectSessionProjectionState key).bind StateText.parse

section Upsert

variable (key other : SessionKey) (state : StateText) (updatedAt : Int) (db : Db)

@[simp] theorem events_upsertSessionProjection :
    (db.upsertSessionProjection key state updatedAt).events = db.events :=
  rfl

@[simp] theorem eventSeq_upsertSessionProjection :
    (db.upsertSessionProjection key state updatedAt).eventSeq = db.eventSeq :=
  rfl

@[simp] theorem projection_upsert_self :
    (db.upsertSessionProjection key state updatedAt).projection key =
      some { source := key.source, sessionId := key.sessionId, state,
             updatedAt } :=
  KeyedTable.lookup_upsert_self ProjectionRow.key
    { source := key.source, sessionId := key.sessionId, state, updatedAt }
    db.projections

variable {key other}

theorem projection_upsert_ne (distinct : key ≠ other) :
    (db.upsertSessionProjection key state updatedAt).projection other =
      db.projection other :=
  KeyedTable.lookup_upsert_ne distinct db.projections

end Upsert

/-! What every write keeps: event ids ascend and stay within the sequence, the
projection table has one row a session, and no row is there without an event. -/

structure WellFormed (db : Db) : Prop where
  ascending : db.events.Pairwise fun first second =>
    first.eventId < second.eventId
  within : ∀ row ∈ db.events, row.eventId ≤ db.eventSeq
  keyed : KeyedTable.Keyed ProjectionRow.key db.projections
  sourced : ∀ row ∈ db.projections, ∃ event ∈ db.events, event.key = row.key

theorem wellFormed_empty : empty.WellFormed where
  ascending := List.Pairwise.nil
  within := by simp [empty]
  keyed := List.nodup_nil
  sourced := by simp [empty]

end Db

end Bowerbird
