import Mathlib.Algebra.Group.Nat.Defs
import Mathlib.Data.List.Basic

namespace Bowerbird.Protocol

/-! JSON as the daemon reads it.  Parsing a text into a value is a parameter of
what uses it; the accessors and the quoted-string reader are given here. -/

namespace Json

/-! The spelling of a number: a sign, whole digits, a fraction, an exponent. -/

def isDigit (char : Char) : Bool :=
  '0' ≤ char && char ≤ '9'

def isDigits (chars : List Char) : Bool :=
  !chars.isEmpty && chars.all isDigit

def isInt : List Char → Bool
  | ['0'] => true
  | char :: rest => isDigit char && char != '0' && rest.all isDigit
  | [] => false

def isFraction : List Char → Bool
  | [] => true
  | '.' :: digits => isDigits digits
  | _ => false

def isExponent : List Char → Bool
  | [] => true
  | mark :: '+' :: digits => (mark == 'e' || mark == 'E') && isDigits digits
  | mark :: '-' :: digits => (mark == 'e' || mark == 'E') && isDigits digits
  | mark :: digits => (mark == 'e' || mark == 'E') && isDigits digits

def IsNumber (text : List Char) : Prop :=
  ∃ sign whole fraction exponent,
    text = sign ++ whole ++ fraction ++ exponent ∧
    (sign = [] ∨ sign = ['-']) ∧ isInt whole = true ∧
    isFraction fraction = true ∧ isExponent exponent = true

/-- A float is kept as the text that it prints as. -/
structure Literal where
  text : String
  valid : IsNumber text.toList
  deriving Repr, DecidableEq

inductive Number where
  | posInt (value : Nat)
  | negInt (value : Int)
  | float (literal : Literal)
  deriving Repr, DecidableEq

inductive Value where
  | null
  | bool (value : Bool)
  | number (value : Number)
  | string (value : String)
  | array (values : List Value)
  | object (fields : List (String × Value))

namespace Value

/-- Field access; anything but an object has no fields. -/
def get (name : String) : Value → Option Value
  | object fields => (fields.find? fun field => field.1 == name).map (·.2)
  | _ => none

def asStr : Value → Option String
  | string value => some value
  | _ => none

/-- Only a non-negative integer below `2 ^ 64` reads as an unsigned integer. -/
def asU64 : Value → Option Nat
  | number (.posInt value) => if value < 2 ^ 64 then some value else none
  | _ => none

end Value

/-- Keys stay in order, and one that is there takes the new value. -/
def insertField (key : String) (value : Value) :
    List (String × Value) → List (String × Value)
  | [] => [(key, value)]
  | field :: rest =>
      if key = field.1 then (key, value) :: rest
      else if key < field.1 then (key, value) :: field :: rest
      else field :: insertField key value rest

/-! The reader of one quoted string, from its text between the quotes. -/

def hexDigit (char : Char) : Option Nat :=
  if '0' ≤ char ∧ char ≤ '9' then some (char.toNat - 48)
  else if 'a' ≤ char ∧ char ≤ 'f' then some (char.toNat - 87)
  else if 'A' ≤ char ∧ char ≤ 'F' then some (char.toNat - 55)
  else none

def hexQuad (first second third fourth : Char) : Option Nat := do
  let first ← hexDigit first
  let second ← hexDigit second
  let third ← hexDigit third
  let fourth ← hexDigit fourth
  return ((first * 16 + second) * 16 + third) * 16 + fourth

def simpleEscape : Char → Option Char
  | '"' => some '"'
  | '\\' => some '\\'
  | '/' => some '/'
  | 'b' => some (Char.ofNat 8)
  | 'f' => some (Char.ofNat 12)
  | 'n' => some '\n'
  | 'r' => some '\r'
  | 't' => some '\t'
  | _ => none

def isHighSurrogate (code : Nat) : Bool :=
  0xD800 ≤ code && code < 0xDC00

def isLowSurrogate (code : Nat) : Bool :=
  0xDC00 ≤ code && code < 0xE000

def unescapeChars : List Char → Option (List Char)
  | [] => some []
  | '\\' :: 'u' :: a :: b :: c :: d :: '\\' :: 'u' :: e :: f :: g :: h :: rest =>
      match hexQuad a b c d, hexQuad e f g h with
      | some high, some low =>
          if isHighSurrogate high then
            if isLowSurrogate low then
              (unescapeChars rest).map
                (Char.ofNat
                  (0x10000 + (high - 0xD800) * 0x400 + (low - 0xDC00)) :: ·)
            else none
          else if isLowSurrogate high then none
          else
            (unescapeChars ('\\' :: 'u' :: e :: f :: g :: h :: rest)).map
              (Char.ofNat high :: ·)
      | _, _ => none
  | '\\' :: 'u' :: a :: b :: c :: d :: rest =>
      match hexQuad a b c d with
      | some code =>
          if isHighSurrogate code || isLowSurrogate code then none
          else (unescapeChars rest).map (Char.ofNat code :: ·)
      | none => none
  | '\\' :: escaped :: rest =>
      match simpleEscape escaped with
      | some char => (unescapeChars rest).map (char :: ·)
      | none => none
  | char :: rest =>
      if char == '"' || char == '\\' || char.toNat < 0x20 then none
      else (unescapeChars rest).map (char :: ·)

/-- The string that the text between two quotes denotes, if it denotes one. -/
def unescape (text : String) : Option String :=
  (unescapeChars text.toList).map String.ofList

/-- A character that stands for itself between quotes. -/
def isPlain (char : Char) : Bool :=
  !(char == '"' || char == '\\' || char.toNat < 0x20)

theorem unescapeChars_cons_plain {char : Char} {rest : List Char}
    (plain : isPlain char = true) :
    unescapeChars (char :: rest) = (unescapeChars rest).map (char :: ·) := by
  have notSpecial :
      (char == '"' || char == '\\' || decide (char.toNat < 0x20)) = false := by
    simpa [isPlain] using plain
  have notBackslash : char ≠ '\\' := by
    rintro rfl
    exact absurd plain (by decide)
  have unchanged :
      (if char == '"' || char == '\\' || char.toNat < 0x20 then none
        else (unescapeChars rest).map (char :: ·)) =
        (unescapeChars rest).map (char :: ·) := by
    rw [notSpecial]
    rfl
  rw [unescapeChars.eq_def]
  split
  case h_1 nil => cases nil
  case h_5 cons =>
    cases cons
    exact unchanged
  all_goals
    rename_i cons
    exact absurd (List.cons.inj cons).1 notBackslash

theorem unescapeChars_plain {chars : List Char}
    (plain : ∀ char ∈ chars, isPlain char = true) :
    unescapeChars chars = some chars := by
  induction chars with
  | nil => simp [unescapeChars]
  | cons char rest induction =>
      rw [unescapeChars_cons_plain (plain char (by simp)),
        induction fun other member => plain other (by simp [member])]
      rfl

theorem unescape_plain {text : String}
    (plain : ∀ char ∈ text.toList, isPlain char = true) :
    unescape text = some text := by
  simp [unescape, unescapeChars_plain plain]

end Json

end Bowerbird.Protocol
