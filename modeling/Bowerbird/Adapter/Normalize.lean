import Bowerbird.Protocol.Event
import Bowerbird.Protocol.Json
import Bowerbird.Db.Codec

namespace Bowerbird.Adapter

open Protocol

/-! The two ways in: a hook payload is normalized, a replayed event is stripped
of its id and time.  `parseValue` is the JSON parser of the payload text. -/

variable (parseValue : String → Option Json.Value)

/-- The typed notification of a payload; other kinds ignore a stray field. -/
def reparseNotificationType (kind : EventKind) (payload : String) :
    Option NotificationType :=
  if kind = .notification then
    (((parseValue payload).bind (·.get "notification_type")).bind
      Json.Value.asStr).map NotificationType.ofWire
  else none

/-- The envelope's notification type is the one its own payload spells. -/
def Typed (envelope : EventEnvelope) : Prop :=
  envelope.kind = .notification →
    envelope.notificationType =
      reparseNotificationType parseValue envelope.kind envelope.payload

instance (envelope : EventEnvelope) : Decidable (Typed parseValue envelope) :=
  inferInstanceAs (Decidable (_ → _))

inductive NormalizeError where
  | invalidUtf8
  | json
  | invalidHookKind (kind : String)
  | missingField (field : String)
  deriving Repr, DecidableEq

def source : String := "claude"

def parseReaction (text : String) : Reaction :=
  if text = "Pause" then .pause
  else if text = "Continue" then .continue
  else if text = "Unknown" then .unknown
  else
    match (Db.vendorInner text.toList).bind Db.parseU16 with
    | some code => .vendor code
    | none => .unknown

/-- `toolReactions` is the parsed configuration, if the file could be read. -/
def loadReaction (toolReactions : Option (List (String × String)))
    (toolName : String) : Reaction :=
  match toolReactions with
  | none => .unknown
  | some table =>
      match table.find? fun entry => entry.1 = toolName with
      | some entry => parseReaction entry.2
      | none => .unknown

def hookEventKind (hookKind : String) : Except NormalizeError EventKind :=
  match hookKind with
  | "UserPromptSubmit" => .ok .userPromptSubmit
  | "PreToolUse" => .ok .preToolUse
  | "PostToolUse" => .ok .postToolUse
  | "Stop" => .ok .stop
  | "Notification" => .ok .notification
  | other => .error (.invalidHookKind other)

def requiredStr (value : Json.Value) (field : String) :
    Except NormalizeError String :=
  match (value.get field).bind Json.Value.asStr with
  | some text => .ok text
  | none => .error (.missingField field)

/-- Only a tool use carries a reaction, and it must name its tool. -/
def hookReaction (toolReactions : Option (List (String × String)))
    (kind : EventKind) (value : Json.Value) :
    Except NormalizeError (Option Reaction) :=
  if kind = .preToolUse then
    match requiredStr value "tool_name" with
    | .ok toolName => .ok (some (loadReaction toolReactions toolName))
    | .error error => .error error
  else .ok none

/-- A parent pid that is missing, malformed, out of range or zero is no pid. -/
def hookPid (value : Json.Value) : Option Nat :=
  (((value.get "bowerbird_ppid").bind Json.Value.asU64).filter
    (· < 2 ^ 32)).filter (· ≠ 0)

def normalize (toolReactions : Option (List (String × String)))
    (hookKind : String) (raw : ByteArray) :
    Except NormalizeError EventEnvelope :=
  match String.fromUTF8? raw with
  | none => .error .invalidUtf8
  | some payload =>
      match parseValue payload with
      | none => .error .json
      | some value => do
          -- an unknown hook kind is reported before any missing field
          let kind ← hookEventKind hookKind
          let sessionId ← requiredStr value "session_id"
          let reaction ← hookReaction toolReactions kind value
          return {
            source
            sessionId
            kind
            reaction
            payload
            pid := hookPid value
            notificationType :=
              if kind = .notification then
                ((value.get "notification_type").bind Json.Value.asStr).map
                  NotificationType.ofWire
              else none
            cwd := (value.get "cwd").bind Json.Value.asStr }

theorem hookEventKind_ok {hookKind : String} {kind : EventKind}
    (accepted : hookEventKind hookKind = .ok kind) :
    kind.isRecording = false ∧ kind ≠ .unknown ∧ kind ≠ .sessionEnded := by
  unfold hookEventKind at accepted
  split at accepted <;> cases accepted <;> decide

/-- What normalization accepts, field by field. -/
theorem normalize_cases {toolReactions : Option (List (String × String))}
    {hookKind : String} {raw : ByteArray} {envelope : EventEnvelope}
    (accepted : normalize parseValue toolReactions hookKind raw =
      .ok envelope) :
    ∃ payload value, String.fromUTF8? raw = some payload ∧
      parseValue payload = some value ∧
      hookEventKind hookKind = .ok envelope.kind ∧
      requiredStr value "session_id" = .ok envelope.sessionId ∧
      hookReaction toolReactions envelope.kind value = .ok envelope.reaction ∧
      envelope.source = source ∧ envelope.payload = payload ∧
      envelope.pid = hookPid value ∧ Typed parseValue envelope := by
  unfold normalize at accepted
  split at accepted
  · cases accepted
  · rename_i payload decoded
    split at accepted
    · cases accepted
    · rename_i value parsed
      cases named : hookEventKind hookKind with
      | error error => simp [named, bind, Except.bind] at accepted
      | ok kind =>
          cases session : requiredStr value "session_id" with
          | error error => simp [named, session, bind, Except.bind] at accepted
          | ok sessionId =>
              cases reacted : hookReaction toolReactions kind value with
              | error error =>
                  simp [named, session, reacted, bind, Except.bind] at accepted
              | ok reaction =>
                  simp only [named, session, reacted, bind,
                    Except.bind] at accepted
                  cases accepted
                  refine ⟨payload, value, decoded, parsed, rfl, session,
                    reacted, rfl, rfl, rfl, ?_⟩
                  intro notification
                  simp only at notification
                  simp [reparseNotificationType, notification, parsed]

/-- What normalization accepts: an envelope of the hook's own kind and source
whose payload is the text received and whose notification type is typed. -/
theorem normalize_ok {toolReactions : Option (List (String × String))}
    {hookKind : String} {raw : ByteArray} {envelope : EventEnvelope}
    (accepted : normalize parseValue toolReactions hookKind raw =
      .ok envelope) :
    hookEventKind hookKind = .ok envelope.kind ∧ envelope.source = source ∧
      String.fromUTF8? raw = some envelope.payload ∧
      Typed parseValue envelope := by
  obtain ⟨payload, value, decoded, _, kind, _, _, ownSource, rfl, _, typed⟩ :=
    normalize_cases parseValue accepted
  exact ⟨kind, ownSource, decoded, typed⟩

/-- Of whatever kind, the notification type is the one a replay would read. -/
theorem normalize_notificationType
    {toolReactions : Option (List (String × String))} {hookKind : String}
    {raw : ByteArray} {envelope : EventEnvelope}
    (accepted : normalize parseValue toolReactions hookKind raw =
      .ok envelope) :
    envelope.notificationType =
      reparseNotificationType parseValue envelope.kind envelope.payload := by
  unfold normalize at accepted
  split at accepted
  · cases accepted
  · split at accepted
    · cases accepted
    · rename_i payload _ value parsed
      cases named : hookEventKind hookKind with
      | error error => simp [named, bind, Except.bind] at accepted
      | ok kind =>
          cases session : requiredStr value "session_id" with
          | error error => simp [named, session, bind, Except.bind] at accepted
          | ok sessionId =>
              cases reacted : hookReaction toolReactions kind value with
              | error error =>
                  simp [named, session, reacted, bind, Except.bind] at accepted
              | ok reaction =>
                  simp only [named, session, reacted, bind,
                    Except.bind] at accepted
                  cases accepted
                  simp only [reparseNotificationType, parsed, Option.bind_some]

/-- A pid that is read is that of a process: never zero, and in range. -/
theorem hookPid_some {value : Json.Value} {pid : Nat}
    (read : hookPid value = some pid) : pid ≠ 0 ∧ pid < 2 ^ 32 := by
  simp only [hookPid, Option.filter_eq_some_iff, decide_eq_true_eq] at read
  exact ⟨read.2, read.1.2⟩

/-- A replayed event keeps everything but its id and time; lifecycle kinds and
kinds this build does not know are refused. -/
def replayEnvelope (event : Event) : Except String EventEnvelope :=
  if event.kind.isRecording then .error "sentinel kind cannot be replayed"
  else if event.kind = .unknown then
    .error "unknown event kind: this build is older than the source daemon"
  else
    .ok {
      source := event.source
      sessionId := event.sessionId
      kind := event.kind
      reaction := event.reaction
      payload := event.payload
      pid := event.pid
      notificationType :=
        reparseNotificationType parseValue event.kind event.payload
      cwd := event.cwd }

theorem replayEnvelope_ok {event : Event} {envelope : EventEnvelope} :
    replayEnvelope parseValue event = .ok envelope ↔
      event.kind.isRecording = false ∧ event.kind ≠ .unknown ∧
      envelope = {
        source := event.source
        sessionId := event.sessionId
        kind := event.kind
        reaction := event.reaction
        payload := event.payload
        pid := event.pid
        notificationType :=
          reparseNotificationType parseValue event.kind event.payload
        cwd := event.cwd } := by
  unfold replayEnvelope
  by_cases recording : event.kind.isRecording = true
  · simp [recording]
  · by_cases unknown : event.kind = .unknown
    · simp [unknown, EventKind.isRecording]
    · simp [recording, unknown, eq_comm]

theorem replayEnvelope_typed {event : Event} {envelope : EventEnvelope}
    (accepted : replayEnvelope parseValue event = .ok envelope) :
    Typed parseValue envelope := by
  unfold replayEnvelope at accepted
  split at accepted
  · cases accepted
  · split at accepted
    · cases accepted
    · cases accepted
      exact fun _ => rfl

end Bowerbird.Adapter
