import Bowerbird.Adapter.Normalize
import Bowerbird.Foundation.Channel
import Bowerbird.Foundation.Utf8
import Mathlib.Data.List.DropRight

namespace Bowerbird.Ingest

open Protocol Foundation

/-! The ingest socket: a connection brings one line, which is refused with a
reason or becomes one item on the ingest channel. -/

inductive IngestOrigin where
  | live
  | replay
  deriving Repr, DecidableEq

structure IngestItem where
  envelope : EventEnvelope
  origin : IngestOrigin
  deriving Repr, DecidableEq

/-- The JSON library: values of texts, documents with their fields as written,
and how it words its errors. -/
structure Serde where
  parse : String → Option Json.Value
  read : String → Option Json.Value
  parseError : String → String
  eventError : List UInt8 → String
  utf8Error : ByteArray → String

/-! Reading the line. -/

/-- What a peer sent before it went quiet; `broken` if it did not close in
order. -/
structure Received where
  bytes : List UInt8
  broken : Bool
  deriving Repr, DecidableEq

inductive LineRead where
  | eof
  | failed
  | line (buf : String)
  deriving Repr, DecidableEq

/-- Up to the first newline and with it, or up to the end. -/
def lineBytes (bytes : List UInt8) : List UInt8 :=
  bytes.takeWhile (· ≠ Utf8.newline) ++
    (bytes.dropWhile (· ≠ Utf8.newline)).take 1

def readLine (received : Received) : LineRead :=
  if received.broken && !received.bytes.contains Utf8.newline then .failed
  else
    match lineBytes received.bytes with
    | [] => .eof
    | bytes =>
        match Utf8.decode bytes with
        | none => .failed
        | some buf => .line buf

def trimEndNewlines (text : String) : String :=
  String.ofList (text.toList.rdropWhile (· = '\n'))

/-! Replies.  A reason goes out on one line and is cut to 512 characters. -/

inductive Reply where
  | accepted
  | unavailable
  | badRequest (reason : String)
  deriving Repr, DecidableEq

def Reply.wire : Reply → String
  | accepted => "200\n"
  | unavailable => "503\n"
  | badRequest reason => "400 " ++ reason ++ "\n"

def sanitizeForWire (text : String) : String :=
  String.ofList
    ((text.toList.map fun char =>
      if char = '\n' ∨ char = '\r' then ' ' else char).take 512)

/-- Unicode white space. -/
def isWhitespace (char : Char) : Bool :=
  let code := char.toNat
  (9 ≤ code && code ≤ 13) || code == 0x20 || code == 0x85 || code == 0xA0 ||
    code == 0x1680 || (0x2000 ≤ code && code ≤ 0x200A) || code == 0x2028 ||
    code == 0x2029 || code == 0x202F || code == 0x205F || code == 0x3000

def isBlank (text : String) : Bool :=
  text.toList.all isWhitespace

def hasNul (text : String) : Bool :=
  text.toList.contains (Char.ofNat 0)

/-- How a normalization error reads once it is wrapped for the daemon. -/
def normalizeErrorText (serde : Serde) (raw : String) :
    Adapter.NormalizeError → String
  | .invalidUtf8 =>
      "serde error: invalid UTF-8 in payload: " ++ serde.utf8Error raw.toUTF8
  | .json => "serde error: json parse error: " ++ serde.parseError raw
  | .missingField field => "serde error: missing required field: " ++ field
  | .invalidHookKind kind => "unknown hook_kind: " ++ kind

def isObject : Json.Value → Bool
  | .object _ => true
  | _ => false

section Handle

variable (serde : Serde) (toolReactions : Option (List (String × String)))

/-- The checks of a line, in order: the envelope it brings, or the reason why it
brings none. -/
def vet (trimmed : String) : Except String EventEnvelope :=
  match serde.parse trimmed with
  | none =>
      .error ("invalid JSON: " ++ sanitizeForWire (serde.parseError trimmed))
  | some value =>
      if isObject value then
        match (value.get "hook_kind").bind Json.Value.asStr with
        | none => .error "missing hook_kind"
        | some hookKind =>
            match Adapter.normalize serde.parse toolReactions hookKind
                trimmed.toUTF8 with
            | .error (.invalidHookKind kind) =>
                .error ("unknown hook_kind: " ++ sanitizeForWire kind)
            | .error error =>
                .error ("normalize error: " ++
                  sanitizeForWire (normalizeErrorText serde trimmed error))
            | .ok envelope =>
                if isBlank envelope.sessionId then
                  .error "session_id must not be empty"
                else if hasNul envelope.payload then
                  .error "payload must not contain null bytes"
                else .ok envelope
      else .error "expected JSON object"

/-- What a connection comes to; nothing at all when no line could be read. -/
def judge (received : Received) : Option (Except String EventEnvelope) :=
  match readLine received with
  | .eof | .failed => none
  | .line buf => some (vet serde toolReactions (trimEndNewlines buf))

/-- The handler from its last read on, with no await before the send. -/
def handle (channel : Channel IngestItem) (received : Received) :
    Channel IngestItem × Option Reply :=
  match judge serde toolReactions received with
  | none => (channel, none)
  | some (.error reason) => (channel, some (.badRequest reason))
  | some (.ok envelope) =>
      match channel.trySend { envelope, origin := .live } with
      | .ok next => (next, some .accepted)
      | .error _ => (channel, some .unavailable)

end Handle

/-- A handler leaves the channel alone or sends one item, and then says so. -/
theorem handle_cases {serde : Serde}
    {toolReactions : Option (List (String × String))}
    {channel next : Channel IngestItem} {received : Received}
    {reply : Option Reply}
    (handles : handle serde toolReactions channel received = (next, reply)) :
    (next = channel ∧ reply ≠ some .accepted) ∨
      ∃ envelope, judge serde toolReactions received = some (.ok envelope) ∧
        channel.trySend { envelope, origin := .live } = .ok next ∧
        reply = some .accepted := by
  unfold handle at handles
  split at handles
  · cases handles
    exact .inl ⟨rfl, nofun⟩
  · cases handles
    exact .inl ⟨rfl, nofun⟩
  · rename_i envelope judged
    split at handles
    · rename_i sent
      cases handles
      exact .inr ⟨envelope, judged, sent, rfl⟩
    · cases handles
      exact .inl ⟨rfl, nofun⟩

/-! What may be on the channel. -/

/-- An envelope of a user's session and not of the daemon's own rows. -/
structure Admitted (envelope : EventEnvelope) : Prop where
  source : envelope.source ≠ daemonSentinelSource
  session : isBlank envelope.sessionId = false
  payload : hasNul envelope.payload = false
  kind : envelope.kind.isRecording = false ∧ envelope.kind ≠ .unknown

instance (envelope : EventEnvelope) : Decidable (Admitted envelope) :=
  decidable_of_iff
    (envelope.source ≠ daemonSentinelSource ∧
      isBlank envelope.sessionId = false ∧ hasNul envelope.payload = false ∧
      envelope.kind.isRecording = false ∧ envelope.kind ≠ .unknown)
    ⟨fun ⟨source, session, payload, kind⟩ => ⟨source, session, payload, kind⟩,
      fun admitted => ⟨admitted.source, admitted.session, admitted.payload,
        admitted.kind⟩⟩

section Admit

variable {serde : Serde} {toolReactions : Option (List (String × String))}
variable {trimmed : String} {envelope : EventEnvelope}

/-- A line that is admitted is an object that names its hook, normalizes, and
passes the two checks on what came of it. -/
theorem vet_ok
    (accepted : vet serde toolReactions trimmed = .ok envelope) :
    ∃ value hookKind, serde.parse trimmed = some value ∧
      isObject value = true ∧
      (value.get "hook_kind").bind Json.Value.asStr = some hookKind ∧
      Adapter.normalize serde.parse toolReactions hookKind trimmed.toUTF8 =
        .ok envelope ∧
      isBlank envelope.sessionId = false ∧
      hasNul envelope.payload = false := by
  unfold vet at accepted
  split at accepted
  · cases accepted
  · rename_i value parsed
    split at accepted
    · rename_i object
      split at accepted
      · cases accepted
      · rename_i hookKind named
        split at accepted
        · cases accepted
        · cases accepted
        · rename_i normalized
          split at accepted
          · cases accepted
          · rename_i session
            split at accepted
            · cases accepted
            · rename_i payload
              cases accepted
              rw [Bool.not_eq_true] at session payload
              exact ⟨value, hookKind, parsed, object, named, normalized,
                session, payload⟩
    · cases accepted

theorem vet_admitted
    (accepted : vet serde toolReactions trimmed = .ok envelope) :
    Admitted envelope := by
  obtain ⟨_, _, _, _, _, normalized, session, payload⟩ := vet_ok accepted
  obtain ⟨kind, source, _, _⟩ := Adapter.normalize_ok serde.parse normalized
  obtain ⟨hook, known, _⟩ := Adapter.hookEventKind_ok kind
  refine ⟨?_, session, payload, hook, known⟩
  rw [source]
  decide

/-- The socket brings no pid but that of a process. -/
theorem vet_pid {pid : Nat}
    (accepted : vet serde toolReactions trimmed = .ok envelope)
    (brings : envelope.pid = some pid) : pid ≠ 0 ∧ pid < 2 ^ 32 := by
  obtain ⟨_, _, _, _, _, normalized, _, _⟩ := vet_ok accepted
  obtain ⟨_, value, _, _, _, _, _, _, _, read, _⟩ :=
    Adapter.normalize_cases serde.parse normalized
  apply Adapter.hookPid_some
  rw [← read, brings]

theorem judge_ok {received : Received}
    (judged : judge serde toolReactions received = some (.ok envelope)) :
    ∃ buf, readLine received = .line buf ∧
      vet serde toolReactions (trimEndNewlines buf) = .ok envelope := by
  unfold judge at judged
  split at judged
  · cases judged
  · cases judged
  · rename_i buf read
    exact ⟨buf, read, Option.some.inj judged⟩

end Admit

end Bowerbird.Ingest
