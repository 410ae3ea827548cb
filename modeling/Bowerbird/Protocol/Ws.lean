import Bowerbird.Protocol.Event

namespace Bowerbird.Protocol

/-! Frames of the socket, in both directions. -/

inductive ClientMessage where
  | subscribe (topic : String) (states : List String)
  | unsubscribe (topic : String)
  deriving Repr, DecidableEq

structure HelloFrame where
  protocolVersion : String
  daemonVersion : String
  oldestAvailableEventId : Int
  daemonStartedAt : Int
  historyBeginsCleanly : Bool
  deriving Repr, DecidableEq

structure StateFrame where
  source : String
  sessionId : String
  state : SessionState
  deriving Repr, DecidableEq

def StateFrame.key (frame : StateFrame) : SessionKey :=
  ⟨frame.source, frame.sessionId⟩

/-- The daemon builds one by `DroppedFrame.new` alone, which checks it. -/
structure DroppedFrame where
  count : Nat
  firstDroppedEventId : Int
  lastDroppedEventId : Int
  counted : 0 < count
  ordered : firstDroppedEventId ≤ lastDroppedEventId
  deriving Repr, DecidableEq

inductive Error where
  | invalidDroppedFrame (count : Nat) (first last : Int)
  deriving Repr, DecidableEq

def DroppedFrame.new (count : Nat) (firstDroppedEventId : Int)
    (lastDroppedEventId : Int) : Except Error DroppedFrame :=
  if counted : 0 < count then
    if ordered : firstDroppedEventId ≤ lastDroppedEventId then
      .ok { count, firstDroppedEventId, lastDroppedEventId, counted, ordered }
    else
      .error (.invalidDroppedFrame count firstDroppedEventId
        lastDroppedEventId)
  else
    .error (.invalidDroppedFrame count firstDroppedEventId lastDroppedEventId)

theorem DroppedFrame.new_ok {count : Nat} {first last : Int}
    (counted : 0 < count) (ordered : first ≤ last) :
    DroppedFrame.new count first last =
      .ok ⟨count, first, last, counted, ordered⟩ := by
  rw [DroppedFrame.new, dif_pos counted, dif_pos ordered]

/-- The frames that the daemon sends; no producer makes a `Sync`. -/
inductive ServerMessage where
  | hello (frame : HelloFrame)
  | event (event : Event)
  | state (frame : StateFrame)
  | dropped (frame : DroppedFrame)
  | close (reason : Option String)
  deriving Repr, DecidableEq

namespace ServerMessage

def event? : ServerMessage → Option Event
  | .event committed => some committed
  | _ => none

def state? : ServerMessage → Option StateFrame
  | .state frame => some frame
  | _ => none

end ServerMessage

end Bowerbird.Protocol
