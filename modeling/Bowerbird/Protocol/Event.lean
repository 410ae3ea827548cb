import Mathlib.Algebra.Group.Nat.Defs
import Mathlib.Data.List.Basic

namespace Bowerbird.Protocol

/-! Wire shapes of events and session states.  Pids are unsigned 32-bit values
and clock readings signed 64-bit ones; neither is computed with here. -/

inductive EventKind where
  | userPromptSubmit
  | preToolUse
  | postToolUse
  | stop
  | notification
  | sessionEnded
  | recordingStarted
  | recordingEnded
  | unknown
  deriving Repr, DecidableEq

namespace EventKind

/-- Kinds that only the daemon's own lifecycle markers carry. -/
def isRecording : EventKind → Bool
  | recordingStarted | recordingEnded => true
  | _ => false

/-- The wire name: the variant identifier itself. -/
def toWire : EventKind → String
  | userPromptSubmit => "UserPromptSubmit"
  | preToolUse => "PreToolUse"
  | postToolUse => "PostToolUse"
  | stop => "Stop"
  | notification => "Notification"
  | sessionEnded => "SessionEnded"
  | recordingStarted => "RecordingStarted"
  | recordingEnded => "RecordingEnded"
  | unknown => "Unknown"

/-- Decoding never fails: every other string is the catch-all. -/
def ofWire : String → EventKind
  | "UserPromptSubmit" => userPromptSubmit
  | "PreToolUse" => preToolUse
  | "PostToolUse" => postToolUse
  | "Stop" => stop
  | "Notification" => notification
  | "SessionEnded" => sessionEnded
  | "RecordingStarted" => recordingStarted
  | "RecordingEnded" => recordingEnded
  | _ => unknown

@[simp] theorem ofWire_toWire (kind : EventKind) : ofWire kind.toWire = kind := by
  cases kind <;> rfl

end EventKind

inductive NotificationType where
  | permissionPrompt
  | idlePrompt
  | authSuccess
  | elicitationDialog
  | elicitationResponse
  | elicitationComplete
  | unknown
  deriving Repr, DecidableEq

def NotificationType.ofWire : String → NotificationType
  | "permission_prompt" => .permissionPrompt
  | "idle_prompt" => .idlePrompt
  | "auth_success" => .authSuccess
  | "elicitation_dialog" => .elicitationDialog
  | "elicitation_response" => .elicitationResponse
  | "elicitation_complete" => .elicitationComplete
  | _ => .unknown

inductive Reaction where
  | pause
  | continue
  | vendor (code : Fin (2 ^ 16))
  | unknown
  deriving Repr, DecidableEq

inductive SessionCurrentState where
  | idle
  | working
  | waitingInput
  | ended
  | unknown
  deriving Repr, DecidableEq

structure SessionState where
  currentState : SessionCurrentState
  lastEventKind : EventKind
  lastEventAtMs : Int
  lastPid : Option Nat
  cwd : Option String
  startedAt : Option Int
  deriving Repr, DecidableEq

/-- What an adapter hands to the daemon; the store adds the id and the time. -/
structure EventEnvelope where
  source : String
  sessionId : String
  kind : EventKind
  reaction : Option Reaction
  payload : String
  pid : Option Nat
  notificationType : Option NotificationType
  cwd : Option String
  deriving Repr, DecidableEq

structure Event where
  eventId : Int
  source : String
  sessionId : String
  kind : EventKind
  reaction : Option Reaction
  payload : String
  createdAt : Int
  pid : Option Nat
  cwd : Option String
  deriving Repr, DecidableEq

/-- The natural key of a session. -/
structure SessionKey where
  source : String
  sessionId : String
  deriving Repr, DecidableEq

def EventEnvelope.key (envelope : EventEnvelope) : SessionKey :=
  ⟨envelope.source, envelope.sessionId⟩

def Event.key (event : Event) : SessionKey :=
  ⟨event.source, event.sessionId⟩

/-- `source` of the daemon's own lifecycle rows. -/
def daemonSentinelSource : String := "__daemon__"

def daemonSentinelSession : String := "__daemon__"

def SessionKey.isSentinel (key : SessionKey) : Bool :=
  key.source == daemonSentinelSource

theorem SessionKey.isSentinel_eq_false {key : SessionKey} :
    key.isSentinel = false ↔ key.source ≠ "__daemon__" := by
  simp [isSentinel, daemonSentinelSource]

end Bowerbird.Protocol
