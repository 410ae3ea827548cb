import Bowerbird.Protocol.Event
import Bowerbird.Protocol.Json
import Mathlib.Data.Nat.Digits.Defs
import Mathlib.Tactic.Common
import Mathlib.Tactic.IntervalCases

namespace Bowerbird.Db

open Protocol

/-! Database strings of kinds and reactions: the wire strings without their
quotes.  Reading one back goes through the JSON string reader. -/

def eventKindAsStr (kind : EventKind) : String :=
  kind.toWire

/-- An empty column is corrupt; every other readable string decodes, at worst to
the catch-all. -/
def eventKindFromDbStr (text : String) : Option EventKind :=
  if text.isEmpty then none
  else (Json.unescape text).map EventKind.ofWire

theorem kindWire_plain (kind : EventKind) :
    kind.toWire.toList.all Json.isPlain = true := by
  cases kind <;> rfl

@[simp] theorem eventKindFromDbStr_asStr (kind : EventKind) :
    eventKindFromDbStr (eventKindAsStr kind) = some kind := by
  have plain : Json.unescape kind.toWire = some kind.toWire :=
    Json.unescape_plain (List.all_eq_true.mp (kindWire_plain kind))
  have nonempty : kind.toWire.isEmpty = false := by cases kind <;> decide
  simp [eventKindFromDbStr, eventKindAsStr, plain, nonempty]

/-! Decimal text of an unsigned 16-bit code. -/

def digitChar (digit : Nat) : Char :=
  Char.ofNat (48 + digit)

def digitValue (char : Char) : Option Nat :=
  if 48 ≤ char.toNat ∧ char.toNat ≤ 57 then some (char.toNat - 48) else none

def decimalValue (value : Nat) : List Char → Option Nat
  | [] => some value
  | char :: rest =>
      match digitValue char with
      | some digit => decimalValue (value * 10 + digit) rest
      | none => none

/-- `str::parse::<u16>`: an optional plus sign, then decimal digits. -/
def parseU16 (chars : List Char) : Option (Fin (2 ^ 16)) :=
  let digits :=
    match chars with
    | '+' :: rest => rest
    | _ => chars
  match digits with
  | [] => none
  | _ =>
      match decimalValue 0 digits with
      | some value => if bound : value < 2 ^ 16 then some ⟨value, bound⟩ else none
      | none => none

def decimalChars (value : Nat) : List Char :=
  if value < 10 then [digitChar value]
  else decimalChars (value / 10) ++ [digitChar (value % 10)]
decreasing_by omega

def vendorPrefix : List Char := ['V', 'e', 'n', 'd', 'o', 'r', '(']

def reactionWire : Reaction → String
  | .pause => "Pause"
  | .continue => "Continue"
  | .vendor code =>
      String.ofList (vendorPrefix ++ decimalChars code.val ++ [')'])
  | .unknown => "Unknown"

def vendorInner (chars : List Char) : Option (List Char) :=
  match chars with
  | 'V' :: 'e' :: 'n' :: 'd' :: 'o' :: 'r' :: '(' :: rest =>
      if rest.getLast? = some ')' then some rest.dropLast else none
  | _ => none

/-- A malformed vendor code is an error; any other unknown string is not. -/
def reactionOfWire (text : String) : Option Reaction :=
  if text = "Pause" then some .pause
  else if text = "Continue" then some .continue
  else if text = "Unknown" then some .unknown
  else
    match vendorInner text.toList with
    | some inner => (parseU16 inner).map .vendor
    | none => some .unknown

def reactionAsDbString (reaction : Reaction) : String :=
  reactionWire reaction

def reactionFromDbString (text : String) : Option Reaction :=
  (Json.unescape text).bind reactionOfWire

theorem digitValue_digitChar {digit : Nat} (small : digit < 10) :
    digitValue (digitChar digit) = some digit := by
  interval_cases digit <;> rfl

theorem digitChar_plain {digit : Nat} (small : digit < 10) :
    Json.isPlain (digitChar digit) = true ∧ digitChar digit ≠ '+' := by
  interval_cases digit <;> decide

theorem decimalValue_append (value : Nat) (first second : List Char) :
    decimalValue value (first ++ second) =
      (decimalValue value first).bind fun middle =>
        decimalValue middle second := by
  induction first generalizing value with
  | nil => rfl
  | cons char rest induction =>
      simp only [List.cons_append, decimalValue]
      cases digitValue char with
      | none => rfl
      | some digit => exact induction _

/-- Reading the decimal text of a number gives the number back. -/
theorem decimalValue_decimalChars (value : Nat) :
    decimalValue 0 (decimalChars value) = some value := by
  induction value using decimalChars.induct with
  | case1 value small =>
      rw [decimalChars, if_pos small]
      simp [decimalValue, digitValue_digitChar small]
  | case2 value large induction =>
      rw [decimalChars, if_neg large, decimalValue_append, induction]
      have small : value % 10 < 10 := Nat.mod_lt _ (by omega)
      simp only [Option.bind_some, decimalValue, digitValue_digitChar small]
      congr 1
      omega

theorem mem_decimalChars {value : Nat} {char : Char}
    (member : char ∈ decimalChars value) :
    ∃ digit < 10, char = digitChar digit := by
  induction value using decimalChars.induct with
  | case1 value small =>
      rw [decimalChars, if_pos small, List.mem_singleton] at member
      exact ⟨value, small, member⟩
  | case2 value large induction =>
      rw [decimalChars, if_neg large, List.mem_append,
        List.mem_singleton] at member
      rcases member with member | rfl
      · exact induction member
      · exact ⟨value % 10, Nat.mod_lt _ (by omega), rfl⟩

theorem decimalChars_ne_nil (value : Nat) : decimalChars value ≠ [] := by
  rw [decimalChars]
  split <;> simp

theorem parseU16_decimalChars (code : Fin (2 ^ 16)) :
    parseU16 (decimalChars code.val) = some code := by
  have value := decimalValue_decimalChars code.val
  cases text : decimalChars code.val with
  | nil => exact absurd text (decimalChars_ne_nil _)
  | cons head rest =>
      have notPlus : head ≠ '+' := by
        have member : head ∈ decimalChars code.val := by simp [text]
        obtain ⟨digit, small, rfl⟩ := mem_decimalChars member
        exact (digitChar_plain small).2
      rw [text] at value
      unfold parseU16
      split
      · rename_i signed
        simp only [List.cons.injEq] at signed
        exact absurd signed.1 notPlus
      · simp [value]

theorem vendorPrefix_plain :
    ∀ char ∈ vendorPrefix, Json.isPlain char = true := by
  apply List.all_eq_true.mp
  rfl

theorem reactionWire_plain (reaction : Reaction) :
    ∀ char ∈ (reactionWire reaction).toList, Json.isPlain char = true := by
  cases reaction with
  | vendor code =>
      intro char member
      simp only [reactionWire, String.toList_ofList, List.mem_append,
        List.mem_singleton] at member
      rcases member with (member | member) | rfl
      · exact vendorPrefix_plain char member
      · obtain ⟨digit, small, rfl⟩ := mem_decimalChars member
        exact (digitChar_plain small).1
      · rfl
  | pause => exact List.all_eq_true.mp rfl
  | «continue» => exact List.all_eq_true.mp rfl
  | unknown => exact List.all_eq_true.mp rfl

theorem reactionOfWire_wire (reaction : Reaction) :
    reactionOfWire (reactionWire reaction) = some reaction := by
  cases reaction with
  | vendor code =>
      have text : (reactionWire (.vendor code)).toList =
          vendorPrefix ++ decimalChars code.val ++ [')'] := by
        simp [reactionWire]
      have different : ∀ other : String, other.toList.head? ≠ some 'V' →
          reactionWire (.vendor code) ≠ other := by
        rintro other head rfl
        exact head (by rw [text]; simp [vendorPrefix])
      have inner : vendorInner (reactionWire (.vendor code)).toList =
          some (decimalChars code.val) := by
        rw [text]
        simp [vendorInner, vendorPrefix]
      rw [reactionOfWire, if_neg (different _ (by decide)),
        if_neg (different _ (by decide)), if_neg (different _ (by decide)),
        inner]
      simp [parseU16_decimalChars]
  | pause => decide
  | «continue» => decide
  | unknown => decide

@[simp] theorem reactionFromDbString_asDbString (reaction : Reaction) :
    reactionFromDbString (reactionAsDbString reaction) = some reaction := by
  rw [reactionFromDbString, reactionAsDbString,
    Json.unescape_plain (reactionWire_plain reaction), Option.bind_some,
    reactionOfWire_wire]

end Bowerbird.Db
