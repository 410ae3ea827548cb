import Bowerbird.Protocol.Event
import Mathlib.Tactic.Common

namespace Bowerbird

open Protocol

/-! The value on the broadcast channel, and the topics that select it. -/

inductive BroadcastEnvelope where
  | event (event : Event)
  | state (source sessionId : String) (state : SessionState)
  deriving Repr, DecidableEq

namespace BroadcastEnvelope

def event? : BroadcastEnvelope → Option Event
  | .event committed => some committed
  | .state .. => none

/-- The session and the state that a state envelope carries. -/
def state? : BroadcastEnvelope → Option (SessionKey × SessionState)
  | .event _ => none
  | .state source sessionId current => some (⟨source, sessionId⟩, current)

end BroadcastEnvelope

inductive Topic where
  | eventsAll
  | eventsBySource (source : String)
  | eventsBySourceSession (source sessionId : String)
  | stateAll
  | stateSession (sessionId : String)
  | stateSessionCurrent (sessionId : String)
  deriving Repr, DecidableEq

namespace Topic

/-- The pieces of a text between its dots. -/
def segments : List Char → List (List Char)
  | [] => [[]]
  | char :: rest =>
      match segments rest with
      | [] => [[char]]
      | first :: others =>
          if char = '.' then [] :: first :: others
          else (char :: first) :: others

def literalOk (text : String) : Bool :=
  text != "*"

/-- The grammar is exact: no empty segment, and no star where a literal goes. -/
def parse (text : String) : Option Topic :=
  if text.toList = [] then none
  else if text.toList.getLast? = some '.' then none
  else if (segments text.toList).any List.isEmpty then none
  else
    match (segments text.toList).map String.ofList with
    | ["events", "*"] => some .eventsAll
    | ["events", source, "*"] =>
        if literalOk source then some (.eventsBySource source) else none
    | ["events", source, sessionId] =>
        if literalOk source && literalOk sessionId then
          some (.eventsBySourceSession source sessionId)
        else none
    | ["state", "session", "*"] => some .stateAll
    | ["state", "session", id] =>
        if literalOk id then some (.stateSession id) else none
    | ["state", "session", id, "current_state"] =>
        if literalOk id then some (.stateSessionCurrent id) else none
    | _ => none

def «matches» : Topic → BroadcastEnvelope → Bool
  | .eventsAll, .event _ => true
  | .eventsBySource wantSource, .event event => event.source == wantSource
  | .eventsBySourceSession wantSource wantSid, .event event =>
      event.source == wantSource && event.sessionId == wantSid
  | .stateAll, .state .. => true
  | .stateSession wantSid, .state _ sessionId _ => sessionId == wantSid
  | .stateSessionCurrent wantSid, .state _ sessionId _ => sessionId == wantSid
  | _, _ => false

def coversStateSession (topic : Topic) (sessionId : String) : Bool :=
  match topic with
  | .stateAll => true
  | .stateSession want | .stateSessionCurrent want => want == sessionId
  | _ => false

def isStateSessionFamily : Topic → Bool
  | .stateAll | .stateSession _ | .stateSessionCurrent _ => true
  | _ => false

/-- Matching a state envelope looks at its session only. -/
theorem matches_state (topic : Topic) (source sessionId : String)
    (state : SessionState) :
    topic.matches (.state source sessionId state) =
      topic.coversStateSession sessionId := by
  cases topic <;>
    simp [«matches», coversStateSession, BEq.comm (a := sessionId)]

theorem coversStateSession_family {topic : Topic} {sessionId : String}
    (covers : topic.coversStateSession sessionId = true) :
    topic.isStateSessionFamily = true := by
  cases topic <;> first | rfl | exact absurd covers (by simp [coversStateSession])

/-- A topic outside the state family matches no state envelope. -/
theorem matches_state_family {topic : Topic} {source sessionId : String}
    {state : SessionState}
    (selected : topic.matches (.state source sessionId state) = true) :
    topic.isStateSessionFamily = true :=
  coversStateSession_family (matches_state topic source sessionId state ▸ selected)

example : parse "events.claude.*" = some (.eventsBySource "claude") := by decide

example : parse "state.session.*.current_state" = none := by decide

end Topic

end Bowerbird
