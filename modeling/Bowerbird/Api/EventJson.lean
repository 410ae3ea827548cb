import Bowerbird.Db.Codec

namespace Bowerbird.Api

open Protocol

/-! An event as a JSON document, the way it is derived: fields in order of their
declaration, options as null, unknown fields ignored, a field given twice
refused. -/

namespace EventJson

def ofInt (value : Int) : Json.Value :=
  if 0 ≤ value then .number (.posInt value.toNat) else .number (.negInt value)

def ofNat (value : Nat) : Json.Value :=
  .number (.posInt value)

def inI64 (value : Int) : Bool :=
  -2 ^ 63 ≤ value && value < 2 ^ 63

def asI64 : Json.Value → Option Int
  | .number (.posInt value) => if value < 2 ^ 63 then some value else none
  | .number (.negInt value) => if inI64 value then some value else none
  | _ => none

def asU32 : Json.Value → Option Nat
  | .number (.posInt value) => if value < 2 ^ 32 then some value else none
  | _ => none

/-- A variant without content, by its name or as the name's field over null. -/
def asKind : Json.Value → Option EventKind
  | .string name => some (EventKind.ofWire name)
  | .object [(name, .null)] => some (EventKind.ofWire name)
  | _ => none

def asReaction : Json.Value → Option Reaction
  | .string text => Db.reactionOfWire text
  | _ => none

section Fields

variable {Item : Type} (read : Json.Value → Option Item)

def optional : Json.Value → Option (Option Item)
  | .null => some none
  | value => (read value).map some

variable (fields : List (String × Json.Value)) (name : String)

/-- The field's value, if it has one; nothing when it has two. -/
def once : Option (Option Json.Value) :=
  match fields.filter (·.1 == name) with
  | [] => some none
  | [field] => some (some field.2)
  | _ => none

def required : Option Item :=
  match once fields name with
  | some (some value) => read value
  | _ => none

def defaulted : Option (Option Item) :=
  match once fields name with
  | none => none
  | some none => some none
  | some (some value) => optional read value

end Fields

def ofJson : Json.Value → Option Event
  | .object fields => do
      let eventId ← required asI64 fields "event_id"
      let source ← required Json.Value.asStr fields "source"
      let sessionId ← required Json.Value.asStr fields "session_id"
      let kind ← required asKind fields "kind"
      let reaction ← defaulted asReaction fields "reaction"
      let payload ← required Json.Value.asStr fields "payload"
      let createdAt ← required asI64 fields "created_at"
      let pid ← defaulted asU32 fields "pid"
      let cwd ← defaulted Json.Value.asStr fields "cwd"
      return {
        eventId, source, sessionId, kind, reaction, payload, createdAt, pid, cwd }
  | .array [eventId, source, sessionId, kind, reaction, payload, createdAt, pid,
      cwd] => do
      -- a sequence of all the fields, by position
      let eventId ← asI64 eventId
      let source ← source.asStr
      let sessionId ← sessionId.asStr
      let kind ← asKind kind
      let reaction ← optional asReaction reaction
      let payload ← payload.asStr
      let createdAt ← asI64 createdAt
      let pid ← optional asU32 pid
      let cwd ← optional Json.Value.asStr cwd
      return {
        eventId, source, sessionId, kind, reaction, payload, createdAt, pid, cwd }
  | _ => none

def ofOption {Item : Type} (write : Item → Json.Value) :
    Option Item → Json.Value
  | none => .null
  | some item => write item

def toJson (event : Event) : Json.Value :=
  .object [
    ("event_id", ofInt event.eventId),
    ("source", .string event.source),
    ("session_id", .string event.sessionId),
    ("kind", .string event.kind.toWire),
    ("reaction", ofOption (fun reaction => .string (Db.reactionWire reaction))
      event.reaction),
    ("payload", .string event.payload),
    ("created_at", ofInt event.createdAt),
    ("pid", ofOption ofNat event.pid),
    ("cwd", ofOption .string event.cwd)]

/-- The fields keep to their machine types. -/
structure InRange (event : Event) : Prop where
  eventId : inI64 event.eventId = true
  createdAt : inI64 event.createdAt = true
  pid : ∀ pid, event.pid = some pid → pid < 2 ^ 32

section RoundTrip

theorem asI64_ofInt {value : Int} (small : inI64 value = true) :
    asI64 (ofInt value) = some value := by
  have bounds := small
  simp only [inI64, Bool.and_eq_true, decide_eq_true_eq] at bounds
  unfold ofInt
  split
  · rename_i positive
    have room : value.toNat < 2 ^ 63 := by omega
    simp only [asI64, if_pos room, Option.some.injEq]
    omega
  · simp only [asI64, if_pos small]

theorem optional_ofOption {Item : Type} {read : Json.Value → Option Item}
    {write : Item → Json.Value} {value : Option Item}
    (reads : ∀ item, value = some item → read (write item) = some item)
    (present : ∀ item, write item ≠ .null) :
    optional read (ofOption write value) = some value := by
  cases value with
  | none => rfl
  | some item =>
      have readBack := reads item rfl
      unfold optional ofOption
      split
      · rename_i absent
        exact absurd absent (present item)
      · rw [readBack]
        rfl

theorem optional_reaction (reaction : Option Reaction) :
    optional asReaction (ofOption (fun reaction =>
      .string (Db.reactionWire reaction)) reaction) = some reaction := by
  apply optional_ofOption
  · intro item _
    exact Db.reactionOfWire_wire item
  · exact fun _ => nofun

theorem optional_pid {pid : Option Nat}
    (small : ∀ value, pid = some value → value < 2 ^ 32) :
    optional asU32 (ofOption ofNat pid) = some pid := by
  apply optional_ofOption
  · intro item present
    exact if_pos (small item present)
  · exact fun _ => nofun

theorem optional_cwd (cwd : Option String) :
    optional Json.Value.asStr (ofOption .string cwd) = some cwd := by
  apply optional_ofOption
  · exact fun _ _ => rfl
  · exact fun _ => nofun

/-- An event is read back from its own document. -/
theorem ofJson_toJson {event : Event} (small : InRange event) :
    ofJson (toJson event) = some event := by
  simp [ofJson, toJson, required, defaulted, once, List.filter,
    asI64_ofInt small.eventId, asI64_ofInt small.createdAt,
    optional_reaction, optional_pid small.pid, optional_cwd, asKind,
    Json.Value.asStr]

end RoundTrip

end EventJson

end Bowerbird.Api
