import Bowerbird.Db.Schema

namespace Bowerbird.Db

open Protocol Foundation

/-! The SELECT statements of the two read surfaces. -/

/-- `SELECT_MIN_EVENT_ID`: rows stand in ascending order of id. -/
def selectMinEventId (db : Db) : Option Int :=
  (db.events.filter (·.source ≠ "__daemon__")).head?.map (·.eventId)

/-- `SELECT_HELLO_DB_FIELDS`: both fields of one snapshot. -/
def selectHelloDbFields (db : Db) : Option Int × Bool :=
  let least := db.selectMinEventId.getD 0
  (db.selectMinEventId, db.recordings.any fun row =>
    row.startedEventId ≤ least && row.endedEventId.any (least ≤ ·))

/-- `SELECT_SESSION_EXISTS_BY_ID` -/
def selectSessionExistsById (sessionId : String) (db : Db) : Bool :=
  db.projections.any fun row =>
    row.sessionId = sessionId && row.source ≠ "__daemon__"

/-- `SELECT_EVENTS_FOR_SESSION_SINCE` -/
def selectEventsForSessionSince (sessionId : String) (since : Int)
    (db : Db) : List EventRow :=
  db.events.filter fun row =>
    row.source ≠ "__daemon__" && row.sessionId = sessionId &&
      since < row.eventId

/-- The rows that `build_sessions_query` asks for. -/
def selectSessions (since : Int) (limit : Option Nat) (db : Db) :
    List ProjectionRow :=
  let rows := db.selectNonSentinelSessions.filter fun row =>
    !decide (0 < since) || since < row.updatedAt
  match limit with
  | some n => rows.take n
  | none => rows

end Bowerbird.Db
