import Bowerbird.Foundation.Broadcast
import Bowerbird.Projection.Snapshot

namespace Bowerbird.Api

open Protocol Foundation Projection

/-! One socket, from its upgrade to its end.  Every await of the connection task
is a step of its own; a label says what the peer, the timers and the socket do. -/

structure WsConfig where
  /-- What the broadcast channel holds for a slow receiver. -/
  capacity : Nat
  coalesceWindow : Nat
  daemonVersion : String
  startedAtMs : Int

inductive BadMessage where
  | malformed
  | binary
  | token (error : TokenError)
  | statesOnTopic (topic : String)
  | subscribeTopic (topic : String)
  | unsubscribeTopic (topic : String)
  deriving Repr, DecidableEq

/-- What a backlog drain makes way for. -/
inductive Drain where
  | subscribe (topic : Topic) (states : List SessionCurrentState)
  | unsubscribe (topic : Topic)
  | shutdown
  deriving Repr, DecidableEq

inductive Phase where
  | greeting (hello : HelloFrame)
  | main
  | draining (drain : Drain)
  | readingClock (topic : Topic) (states : List SessionCurrentState)
  | readingSnapshot (topic : Topic) (states : List SessionCurrentState)
      (nowMs : Int)
  /-- The rest of a burst, with the clock and the last event id it was read at. -/
  | emitting (nowMs asOf : Int) (frames : List StateFrame)
  | closing
  | closed
  deriving Repr, DecidableEq

structure Conn where
  phase : Phase
  /-- Position of the receiver in the channel. -/
  next : Nat
  subscriptions : List Topic
  snapshottedKeys : List SessionKey
  lastDeliveredEventId : Option Int
  lastDroppedAt : Option Nat
  pendingDropCount : Nat
  pendingDroppedFirst : Option Int
  awaitingPong : Bool
  deriving Repr, DecidableEq

inductive Inbound where
  /-- A text frame, decoded if it can be. -/
  | text (message : Option ClientMessage)
  | binary
  | pong
  | ping
  | close
  | error
  | ended
  deriving Repr, DecidableEq

inductive ConnLabel where
  | greet (sent : Bool)
  | receive (now : Nat) (sent : Bool)
  | inbound (message : Inbound)
  | pingTick (sent : Bool)
  | pongTimeout
  | closeRequested
  | readClock (read : Bool)
  | readSnapshot (read : Bool)
  | emit (sent : Bool)
  | close (sent : Bool)
  deriving Repr, DecidableEq

/-- Whether a label is the SELECT of a snapshot. -/
def ConnLabel.selects : ConnLabel → Bool
  | .readSnapshot _ => true
  | _ => false

/-- Where a frame comes from. -/
inductive Origin where
  | live
  | snapshot (nowMs asOf : Int)
  | control
  deriving Repr, DecidableEq

inductive CloseReason where
  | badMessage (error : BadMessage)
  | daemonShutdown
  deriving Repr, DecidableEq

inductive ConnSeen where
  | upgraded
  | frame (message : ServerMessage) (origin : Origin)
  | dequeued (envelope : BroadcastEnvelope) (topics : List Topic)
  | lagged (lost : List BroadcastEnvelope) (topics : List Topic)
  | drained
  | subscribed (topic : Topic) (states : List SessionCurrentState)
  | unsubscribed (topic : Topic)
  | wsClose (code : Nat) (reason : CloseReason)
  deriving Repr, DecidableEq

/-- What a connection task sees of the rest of the daemon. -/
structure View where
  config : WsConfig
  hub : List BroadcastEnvelope
  db : Db
  clock : Nat
  closeRequested : Bool

/-! The coalescing policy. -/

inductive CoalesceDecision where
  | emit (count : Nat) (first last : Int)
  | suppress
  deriving Repr, DecidableEq

def u64Max : Nat := 2 ^ 64 - 1

def u64SaturatingAdd (left right : Nat) : Nat :=
  min u64Max (left + right)

def i64SaturatingAdd (left right : Int) : Int :=
  max i64Min (min i64Max (left + right))

def cursorToFirst : Option Int → Int
  | some id => i64SaturatingAdd id 1
  | none => 0

/-- The decision, and the two pending values as it leaves them. -/
def coalesceDecision (now : Nat) (lastDroppedAt : Option Nat)
    (pendingDropCount : Nat) (pendingDroppedFirst : Option Int)
    (lastDeliveredEventId : Option Int) (n coalesceWindow : Nat) :
    CoalesceDecision × Nat × Option Int :=
  let withinWindow := lastDroppedAt.any (now - · ≤ coalesceWindow)
  if withinWindow then
    (.suppress, u64SaturatingAdd pendingDropCount n,
      if pendingDropCount = 0 then some (cursorToFirst lastDeliveredEventId)
      else pendingDroppedFirst)
  else
    let count := u64SaturatingAdd pendingDropCount n
    let first := pendingDroppedFirst.getD (cursorToFirst lastDeliveredEventId)
    let lastOffset : Int := min (count - 1 : Nat) i64Max
    (.emit count first (i64SaturatingAdd first lastOffset), pendingDropCount,
      pendingDroppedFirst)

inductive DispatchOutcome where
  | sent
  | filtered
  | closed
  deriving Repr, DecidableEq

def dispatchEnvelope (sent : Bool) (subscriptions : List Topic)
    (envelope : BroadcastEnvelope) : DispatchOutcome :=
  if subscriptions.any (·.matches envelope) then
    if sent then .sent else .closed
  else .filtered

def envelopeFrame : BroadcastEnvelope → ServerMessage
  | .event event => .event event
  | .state source sessionId state => .state { source, sessionId, state }

namespace Conn

def upgraded (hello : HelloFrame) (next : Nat) : Conn :=
  { phase := .greeting hello
    next
    subscriptions := []
    snapshottedKeys := []
    lastDeliveredEventId := none
    lastDroppedAt := none
    pendingDropCount := 0
    pendingDroppedFirst := none
    awaitingPong := false }

/-- The bookkeeping after an envelope went out. -/
def delivered (conn : Conn) : BroadcastEnvelope → Conn
  | .event event => { conn with lastDeliveredEventId := some event.eventId }
  | .state source sessionId _ =>
      { conn with
        snapshottedKeys := conn.snapshottedKeys.insert ⟨source, sessionId⟩ }

@[simp] theorem delivered_phase (conn : Conn) (envelope : BroadcastEnvelope) :
    (conn.delivered envelope).phase = conn.phase := by
  cases envelope <;> rfl

@[simp] theorem delivered_next (conn : Conn) (envelope : BroadcastEnvelope) :
    (conn.delivered envelope).next = conn.next := by
  cases envelope <;> rfl

@[simp] theorem delivered_subscriptions (conn : Conn)
    (envelope : BroadcastEnvelope) :
    (conn.delivered envelope).subscriptions = conn.subscriptions := by
  cases envelope <;> rfl

def dispatch (conn : Conn) (sent : Bool) (envelope : BroadcastEnvelope) :
    Conn × List ConnSeen :=
  let dequeued := .dequeued envelope conn.subscriptions
  match dispatchEnvelope sent conn.subscriptions envelope with
  | .sent =>
      (conn.delivered envelope,
        [dequeued, .frame (envelopeFrame envelope) .live])
  | .filtered => (conn, [dequeued])
  | .closed => ({ conn with phase := .closed }, [dequeued])

def emitDroppedOrCoalesce (conn : Conn) (now n coalesceWindow : Nat)
    (sent : Bool) : Conn × List ConnSeen :=
  let (decision, pendingDropCount, pendingDroppedFirst) :=
    coalesceDecision now conn.lastDroppedAt conn.pendingDropCount
      conn.pendingDroppedFirst conn.lastDeliveredEventId n coalesceWindow
  let conn := { conn with pendingDropCount, pendingDroppedFirst }
  match decision with
  | .suppress => (conn, [])
  | .emit count first last =>
      match DroppedFrame.new count first last with
      | .error _ => (conn, [])
      | .ok frame =>
          if sent then
            ({ conn with
              lastDroppedAt := some now
              pendingDropCount := 0
              pendingDroppedFirst := none },
              [.frame (.dropped frame) .control])
          else ({ conn with phase := .closed }, [])

def lag (conn : Conn) (lost : List BroadcastEnvelope)
    (now n coalesceWindow : Nat) (sent : Bool) : Conn × List ConnSeen :=
  let lagged := .lagged lost conn.subscriptions
  -- without a subscription nothing was promised: a silent fast-forward
  if conn.subscriptions = [] then (conn, [lagged])
  else
    let (conn, out) := { conn with snapshottedKeys := [] }.emitDroppedOrCoalesce
      now n coalesceWindow sent
    (conn, lagged :: out)

/-- The receive arm that the main loop and the drains share. -/
def take (conn : Conn) (view : View) (now : Nat) (sent : Bool) :
    Option (Conn × List ConnSeen) :=
  match Broadcast.receive view.hub view.config.capacity conn.next with
  | (.message envelope, next) => some ({ conn with next }.dispatch sent envelope)
  | (.lagged n, next) =>
      some ({ conn with next }.lag (Broadcast.skipped view.hub conn.next n) now n
        view.config.coalesceWindow sent)
  | (.empty, _) => none

def unsubscribe (conn : Conn) (topic : Topic) : Conn :=
  let subscriptions := conn.subscriptions.filter (· ≠ topic)
  { conn with
    subscriptions
    snapshottedKeys := conn.snapshottedKeys.filter fun key =>
      subscriptions.any (·.coversStateSession key.sessionId) }

def endDrain (conn : Conn) : Drain → Conn × List ConnSeen
  | .subscribe topic states =>
      ({ conn with phase := .readingClock topic states }, [.drained])
  | .unsubscribe topic =>
      ({ conn.unsubscribe topic with phase := .main },
        [.drained, .unsubscribed topic])
  | .shutdown => ({ conn with phase := .closing }, [.drained])

def closeWithBadMessage (conn : Conn) (error : BadMessage) :
    Conn × List ConnSeen :=
  ({ conn with phase := .closed }, [.wsClose 1008 (.badMessage error)])

def handleTextFrame (conn : Conn) (message : Option ClientMessage) :
    Conn × List ConnSeen :=
  match message with
  | none => conn.closeWithBadMessage .malformed
  | some (.subscribe topic states) =>
      match parseStatesArray states with
      | .error error => conn.closeWithBadMessage (.token error)
      | .ok stateFilter =>
          match Topic.parse topic with
          | none => conn.closeWithBadMessage (.subscribeTopic topic)
          | some parsed =>
              if stateFilter ≠ [] ∧ parsed.isStateSessionFamily = false then
                conn.closeWithBadMessage (.statesOnTopic topic)
              else
                ({ conn with
                  phase := .draining (.subscribe parsed stateFilter) }, [])
  | some (.unsubscribe topic) =>
      match Topic.parse topic with
      | none => conn.closeWithBadMessage (.unsubscribeTopic topic)
      | some parsed =>
          ({ conn with phase := .draining (.unsubscribe parsed) }, [])

def handleInbound (conn : Conn) : Inbound → Conn × List ConnSeen
  | .text message => conn.handleTextFrame message
  | .binary => conn.closeWithBadMessage .binary
  | .pong => ({ conn with awaitingPong := false }, [])
  | .ping => (conn, [])
  | .close | .error | .ended => ({ conn with phase := .closed }, [])

def afterBurst (nowMs asOf : Int) : List StateFrame → Phase
  | [] => .main
  | frames => .emitting nowMs asOf frames

@[simp] theorem endDrain_next (conn : Conn) (drain : Drain) :
    (conn.endDrain drain).1.next = conn.next := by
  cases drain <;> rfl

/-- Steps [C] and [D]: the SELECT, and the topic joins the set. -/
def readSnapshot (conn : Conn) (view : View) (topic : Topic)
    (states : List SessionCurrentState) (nowMs : Int) (read : Bool) :
    Conn × List ConnSeen :=
  let frames :=
    if read then
      snapshotForTopic topic conn.snapshottedKeys nowMs states view.db
    else []
  ({ conn with
    subscriptions := conn.subscriptions.insert topic
    phase := afterBurst nowMs view.db.eventSeq frames },
    [.subscribed topic states])

def step (view : View) (conn : Conn) (label : ConnLabel) :
    Option (Conn × List ConnSeen) :=
  match conn.phase, label with
  | .greeting hello, .greet sent =>
      if sent then
        some ({ conn with phase := .main }, [.frame (.hello hello) .control])
      else some ({ conn with phase := .closed }, [])
  -- the select is biased: a requested close goes before every other arm
  | .main, .closeRequested =>
      if view.closeRequested then
        some ({ conn with phase := .draining .shutdown }, [])
      else none
  | .main, .pongTimeout =>
      if view.closeRequested || !conn.awaitingPong then none
      else some ({ conn with phase := .closed }, [])
  | .main, .inbound message =>
      if view.closeRequested then none else some (conn.handleInbound message)
  | .main, .receive now sent =>
      if view.closeRequested then none else conn.take view now sent
  | .main, .pingTick sent =>
      if view.closeRequested then none
      else if conn.awaitingPong then some (conn, [])
      else if sent then some ({ conn with awaitingPong := true }, [])
      else some ({ conn with phase := .closed }, [])
  | .draining drain, .receive now sent =>
      match conn.take view now sent with
      | some taken => some taken
      | none => some (conn.endDrain drain)
  | .readingClock topic states, .readClock read =>
      some ({ conn with
        phase := .readingSnapshot topic states
          (if read then view.clock else 0) }, [])
  | .readingSnapshot topic states nowMs, .readSnapshot read =>
      some (conn.readSnapshot view topic states nowMs read)
  | .emitting nowMs asOf (frame :: frames), .emit sent =>
      let conn := { conn with
        snapshottedKeys := conn.snapshottedKeys.insert frame.key }
      if sent then
        some ({ conn with phase := afterBurst nowMs asOf frames },
          [.frame (.state frame) (.snapshot nowMs asOf)])
      else some ({ conn with phase := .closed }, [])
  | .closing, .close sent =>
      if sent then
        some ({ conn with phase := .closed },
          [.frame (.close (some "daemon shutdown")) .control,
            .wsClose 1000 .daemonShutdown])
      else some ({ conn with phase := .closed }, [])
  | _, _ => none

/-! What a step can do, said once. -/

/-- Whether a phase takes envelopes from the channel. -/
def receiving : Phase → Bool
  | .main | .draining _ => true
  | _ => false

/-- The frames of a burst that are still to be sent. -/
def burst (conn : Conn) : List StateFrame :=
  match conn.phase with
  | .emitting _ _ frames => frames
  | _ => []

def droppedFrames (report : Option DroppedFrame) : List ConnSeen :=
  report.toList.map fun frame => .frame (.dropped frame) .control

inductive Moves (view : View) (conn : Conn) :
    ConnLabel → Conn → List ConnSeen → Prop
  | greeted {hello : HelloFrame} (greeting : conn.phase = .greeting hello) :
      Moves view conn (.greet true) { conn with phase := .main }
        [.frame (.hello hello) .control]
  | ended {label : ConnLabel} (quiet : label.selects = false)
      (reason : Option (Nat × CloseReason)) :
      Moves view conn label { conn with phase := .closed }
        (reason.toList.map fun (code, reason) => .wsClose code reason)
  | poked {label : ConnLabel} (quiet : label.selects = false)
      (main : conn.phase = .main)
      (awaitingPong : Bool) :
      Moves view conn label { conn with awaitingPong } []
  | drains {label : ConnLabel} {drain : Drain} (quiet : label.selects = false)
      (main : conn.phase = .main)
      (requested : drain = .shutdown → view.closeRequested = true) :
      Moves view conn label { conn with phase := .draining drain } []
  | sent {now : Nat} {envelope : BroadcastEnvelope}
      (receives : receiving conn.phase = true)
      (found : view.hub[conn.next]? = some envelope)
      (selected : conn.subscriptions.any (·.matches envelope) = true) :
      Moves view conn (.receive now true)
        ({ conn with next := conn.next + 1 }.delivered envelope)
        [.dequeued envelope conn.subscriptions,
          .frame (envelopeFrame envelope) .live]
  | unsent {now : Nat} {envelope : BroadcastEnvelope}
      (receives : receiving conn.phase = true)
      (found : view.hub[conn.next]? = some envelope)
      (selected : conn.subscriptions.any (·.matches envelope) = true) :
      Moves view conn (.receive now false)
        { conn with next := conn.next + 1, phase := .closed }
        [.dequeued envelope conn.subscriptions]
  | filtered {now : Nat} {sent : Bool} {envelope : BroadcastEnvelope}
      (receives : receiving conn.phase = true)
      (found : view.hub[conn.next]? = some envelope)
      (refused : conn.subscriptions.any (·.matches envelope) = false) :
      Moves view conn (.receive now sent) { conn with next := conn.next + 1 }
        [.dequeued envelope conn.subscriptions]
  | lagged {now n : Nat} {sent : Bool} {lastDroppedAt : Option Nat}
      {pendingDropCount : Nat} {pendingDroppedFirst : Option Int}
      {snapshottedKeys : List SessionKey} {phase : Phase}
      {report : Option DroppedFrame}
      (receives : receiving conn.phase = true)
      (behind : Broadcast.receive view.hub view.config.capacity conn.next =
        (.lagged n, conn.next + n))
      (cleared : snapshottedKeys =
        if conn.subscriptions = [] then conn.snapshottedKeys else [])
      (lives : phase = conn.phase ∨ phase = .closed ∧ sent = false)
      (silent : conn.subscriptions = [] → report = none) :
      Moves view conn (.receive now sent)
        { conn with
          next := conn.next + n
          snapshottedKeys, lastDroppedAt, pendingDropCount
          pendingDroppedFirst, phase }
        (.lagged (Broadcast.skipped view.hub conn.next n) conn.subscriptions ::
          droppedFrames report)
  | drained {now : Nat} {sent : Bool} {drain : Drain}
      (draining : conn.phase = .draining drain)
      (caughtUp : view.hub.length ≤ conn.next) :
      Moves view conn (.receive now sent) (conn.endDrain drain).1
        (conn.endDrain drain).2
  | readClock {topic : Topic} {states : List SessionCurrentState} {nowMs : Int}
      {read : Bool} (reading : conn.phase = .readingClock topic states)
      (within : 0 ≤ nowMs ∧ nowMs ≤ view.clock) :
      Moves view conn (.readClock read)
        { conn with phase := .readingSnapshot topic states nowMs } []
  | readSnapshot {topic : Topic} {states : List SessionCurrentState}
      {nowMs : Int} {read : Bool}
      (reading : conn.phase = .readingSnapshot topic states nowMs) :
      Moves view conn (.readSnapshot read)
        (conn.readSnapshot view topic states nowMs read).1
        (conn.readSnapshot view topic states nowMs read).2
  | emitted {nowMs asOf : Int} {frame : StateFrame} {frames : List StateFrame}
      (emitting : conn.phase = .emitting nowMs asOf (frame :: frames)) :
      Moves view conn (.emit true)
        { conn with
          snapshottedKeys := conn.snapshottedKeys.insert frame.key
          phase := afterBurst nowMs asOf frames }
        [.frame (.state frame) (.snapshot nowMs asOf)]
  | unemitted {nowMs asOf : Int} {frame : StateFrame}
      {frames : List StateFrame}
      (emitting : conn.phase = .emitting nowMs asOf (frame :: frames)) :
      Moves view conn (.emit false)
        { conn with
          snapshottedKeys := conn.snapshottedKeys.insert frame.key
          phase := .closed } []
  | saidClose (closing : conn.phase = .closing) :
      Moves view conn (.close true) { conn with phase := .closed }
        [.frame (.close (some "daemon shutdown")) .control,
          .wsClose 1000 .daemonShutdown]

section Moves

variable {view : View} {conn next : Conn} {label : ConnLabel}
variable {out : List ConnSeen}

theorem emitDroppedOrCoalesce_cases (conn : Conn) (now n coalesceWindow : Nat)
    (sent : Bool) :
    ∃ lastDroppedAt pendingDropCount pendingDroppedFirst phase report,
      (phase = conn.phase ∨ phase = .closed ∧ sent = false) ∧
      conn.emitDroppedOrCoalesce now n coalesceWindow sent =
        ({ conn with
          lastDroppedAt, pendingDropCount, pendingDroppedFirst, phase },
          droppedFrames report) := by
  unfold emitDroppedOrCoalesce
  generalize coalesceDecision _ _ _ _ _ _ _ = decided
  obtain ⟨decision, pendingDropCount, pendingDroppedFirst⟩ := decided
  cases decision with
  | suppress => exact ⟨_, _, _, _, none, .inl rfl, rfl⟩
  | emit count first last =>
      cases built : DroppedFrame.new count first last with
      | error error =>
          simp only [built]
          exact ⟨_, _, _, _, none, .inl rfl, rfl⟩
      | ok frame =>
          simp only [built]
          cases sent with
          | true => exact ⟨_, _, _, _, some frame, .inl rfl, rfl⟩
          | false => exact ⟨_, _, _, _, none, .inr ⟨rfl, rfl⟩, rfl⟩

theorem take_moves {now : Nat} {sent : Bool}
    (receives : receiving conn.phase = true)
    (taken : conn.take view now sent = some (next, out)) :
    Moves view conn (.receive now sent) next out := by
  unfold take at taken
  split at taken
  · rename_i envelope position received
    obtain ⟨found, rfl⟩ := Broadcast.receive_message received
    rw [Option.some.injEq] at taken
    unfold dispatch dispatchEnvelope at taken
    by_cases selected : conn.subscriptions.any (·.matches envelope) = true
    · cases sent with
      | true =>
          simp only [selected, if_true, Prod.mk.injEq] at taken
          obtain ⟨rfl, rfl⟩ := taken
          exact .sent receives found selected
      | false =>
          simp only [selected, if_true, Bool.false_eq_true, if_false,
            Prod.mk.injEq] at taken
          obtain ⟨rfl, rfl⟩ := taken
          exact .unsent receives found selected
    · simp only [selected, if_false, Prod.mk.injEq, Bool.false_eq_true]
        at taken
      obtain ⟨rfl, rfl⟩ := taken
      exact .filtered receives found (by simpa using selected)
  · rename_i n position received
    obtain ⟨_, rfl, _⟩ := Broadcast.receive_lagged received
    rw [Option.some.injEq] at taken
    unfold lag at taken
    split at taken
    · rename_i unsubscribed
      cases taken
      exact .lagged receives received (if_pos unsubscribed).symm (.inl rfl)
        fun _ => rfl
    · rename_i subscribed
      obtain ⟨lastDroppedAt, pendingDropCount, pendingDroppedFirst, phase,
        report, lives, reported⟩ := emitDroppedOrCoalesce_cases
          { conn with next := conn.next + n, snapshottedKeys := [] } now n
          view.config.coalesceWindow sent
      rw [reported] at taken
      cases taken
      exact .lagged receives received (by rw [if_neg subscribed]) lives
        fun unsubscribed => absurd unsubscribed subscribed
  · cases taken

theorem handleTextFrame_moves {message : Option ClientMessage}
    (main : conn.phase = .main) :
    Moves view conn (.inbound (.text message))
      (conn.handleTextFrame message).1 (conn.handleTextFrame message).2 := by
  unfold handleTextFrame
  split
  · exact .ended rfl (some (1008, .badMessage .malformed))
  · split
    · exact .ended rfl (some (1008, .badMessage (.token _)))
    · split
      · exact .ended rfl (some (1008, .badMessage (.subscribeTopic _)))
      · split
        · exact .ended rfl (some (1008, .badMessage (.statesOnTopic _)))
        · exact .drains rfl main (fun shutdown => nomatch shutdown)
  · split
    · exact .ended rfl (some (1008, .badMessage (.unsubscribeTopic _)))
    · exact .drains rfl main (fun shutdown => nomatch shutdown)

theorem handleInbound_moves {message : Inbound} (main : conn.phase = .main) :
    Moves view conn (.inbound message) (conn.handleInbound message).1
      (conn.handleInbound message).2 := by
  cases message with
  | text message => exact handleTextFrame_moves main
  | binary => exact .ended rfl (some (1008, .badMessage .binary))
  | pong => exact .poked rfl main false
  | ping => exact .poked rfl main conn.awaitingPong
  | close => exact .ended rfl none
  | error => exact .ended rfl none
  | ended => exact .ended rfl none

theorem step_moves (taken : conn.step view label = some (next, out)) :
    Moves view conn label next out := by
  unfold step at taken
  split at taken
  · rename_i hello sent greeting
    cases sent with
    | true =>
        cases taken
        exact .greeted greeting
    | false =>
        cases taken
        exact .ended rfl none
  · rename_i main
    split at taken
    · rename_i requested
      cases taken
      exact .drains rfl main fun _ => requested
    · cases taken
  · split at taken
    · cases taken
    · cases taken
      exact .ended rfl none
  · rename_i message main
    split at taken
    · cases taken
    · have moved : Moves view conn (.inbound message) _ _ :=
        handleInbound_moves main
      rw [Option.some.inj taken] at moved
      exact moved
  · rename_i now sent main
    split at taken
    · cases taken
    · exact take_moves (by rw [main]; rfl) taken
  · rename_i sent main
    split at taken
    · cases taken
    · split at taken
      · cases taken
        exact .poked rfl main conn.awaitingPong
      · split at taken
        · cases taken
          exact .poked rfl main true
        · cases taken
          exact .ended rfl none
  · rename_i drain now sent draining
    split at taken
    · rename_i received
      rw [taken] at received
      exact take_moves (by rw [draining]; rfl) received
    · rename_i nothing
      have caughtUp : view.hub.length ≤ conn.next := by
        unfold take at nothing
        split at nothing
        · cases nothing
        · cases nothing
        · rename_i received
          exact (Broadcast.receive_empty received).1
      have moved : Moves view conn (.receive now sent) _ _ :=
        .drained draining caughtUp
      rw [Option.some.inj taken] at moved
      exact moved
  · rename_i topic states read reading
    cases taken
    refine .readClock reading ?_
    split <;> simp
  · rename_i topic states nowMs read reading
    cases taken
    exact .readSnapshot reading
  · rename_i nowMs asOf frame frames sent emitting
    cases sent with
    | true =>
        cases taken
        exact .emitted emitting
    | false =>
        cases taken
        exact .unemitted emitting
  · rename_i sent closing
    cases sent with
    | true =>
        cases taken
        exact .saidClose closing
    | false =>
        cases taken
        exact .ended rfl none
  · cases taken

end Moves

end Conn

end Bowerbird.Api
