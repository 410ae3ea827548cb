import Bowerbird.Foundation.PrefixFree
import Bowerbird.Protocol.Json

namespace Bowerbird.Protocol.Json

open Foundation

/-! The texts that denote a value, after the grammar, and the compact printer. -/

def isSpace (char : Char) : Bool :=
  char == ' ' || char == '\t' || char == '\n' || char == '\r'

def Blank (text : List Char) : Prop :=
  ∀ char ∈ text, isSpace char = true

/-- What may stand between two quotes. -/
inductive StringBody : List Char → Prop
  | empty : StringBody []
  | plain {char : Char} {rest : List Char} (plain : isPlain char = true)
      (body : StringBody rest) : StringBody (char :: rest)
  | escape {char : Char} {rest : List Char}
      (escape : (simpleEscape char).isSome = true) (body : StringBody rest) :
      StringBody ('\\' :: char :: rest)
  | unicode {a b c d : Char} {rest : List Char}
      (quad : (hexQuad a b c d).isSome = true) (body : StringBody rest) :
      StringBody ('\\' :: 'u' :: a :: b :: c :: d :: rest)

inductive Part where
  | value
  | element
  | elements
  | member
  | members
  deriving Repr, DecidableEq

/-- The grammar: an element is a value with blanks around it. -/
inductive Spells : Part → List Char → Prop
  | null : Spells .value "null".toList
  | true : Spells .value "true".toList
  | false : Spells .value "false".toList
  | number {text : List Char} (number : IsNumber text) : Spells .value text
  | string {body : List Char} (spelled : StringBody body) :
      Spells .value ('"' :: body ++ ['"'])
  | emptyArray {between : List Char} (blank : Blank between) :
      Spells .value ('[' :: between ++ [']'])
  | array {text : List Char} (elements : Spells .elements text) :
      Spells .value ('[' :: text ++ [']'])
  | emptyObject {between : List Char} (blank : Blank between) :
      Spells .value ('{' :: between ++ ['}'])
  | object {text : List Char} (members : Spells .members text) :
      Spells .value ('{' :: text ++ ['}'])
  | element {before text after : List Char} (leads : Blank before)
      (value : Spells .value text) (trails : Blank after) :
      Spells .element (before ++ (text ++ after))
  | lastElement {text : List Char} (element : Spells .element text) :
      Spells .elements text
  | elements {text rest : List Char} (element : Spells .element text)
      (elements : Spells .elements rest) :
      Spells .elements (text ++ ([','] ++ rest))
  | member {before body after text : List Char} (leads : Blank before)
      (key : StringBody body) (trails : Blank after)
      (element : Spells .element text) :
      Spells .member
        (before ++ (('"' :: body ++ ['"']) ++ (after ++ ([':'] ++ text))))
  | lastMember {text : List Char} (member : Spells .member text) :
      Spells .members text
  | members {text rest : List Char} (member : Spells .member text)
      (members : Spells .members rest) :
      Spells .members (text ++ ([','] ++ rest))

def IsText (text : List Char) : Prop :=
  Spells .element text

/-! Printing, with no blanks. -/

def hexLower (digit : Nat) : Char :=
  Char.ofNat (if digit < 10 then 48 + digit else 87 + digit)

def escapeChar (char : Char) : List Char :=
  if char = '"' then ['\\', '"']
  else if char = '\\' then ['\\', '\\']
  else if char.toNat = 8 then ['\\', 'b']
  else if char = '\t' then ['\\', 't']
  else if char = '\n' then ['\\', 'n']
  else if char.toNat = 12 then ['\\', 'f']
  else if char = '\r' then ['\\', 'r']
  else if char.toNat < 0x20 then
    ['\\', 'u', '0', '0', hexLower (char.toNat / 16),
      hexLower (char.toNat % 16)]
  else [char]

def printString (text : String) : List Char :=
  '"' :: text.toList.flatMap escapeChar ++ ['"']

def printNumber : Number → List Char
  | .posInt value => (toString value).toList
  | .negInt value => (toString value).toList
  | .float literal => literal.text.toList

mutual

def print : Value → List Char
  | .null => "null".toList
  | .bool value => if value then "true".toList else "false".toList
  | .number value => printNumber value
  | .string value => printString value
  | .array [] => "[]".toList
  | .array (value :: rest) =>
      '[' :: (print value ++ printMoreValues rest) ++ [']']
  | .object [] => "{}".toList
  | .object (field :: rest) =>
      '{' :: (printField field ++ printMoreFields rest) ++ ['}']

def printMoreValues : List Value → List Char
  | [] => []
  | value :: rest => [','] ++ (print value ++ printMoreValues rest)

def printField : String × Value → List Char
  | (key, value) => printString key ++ ([':'] ++ print value)

def printMoreFields : List (String × Value) → List Char
  | [] => []
  | field :: rest => [','] ++ (printField field ++ printMoreFields rest)

end

/-! Printing for people, with each entry on a line of its own. -/

def pad (indent : Nat) : List Char :=
  '\n' :: List.replicate (2 * indent) ' '

mutual

def printPretty (indent : Nat) : Value → List Char
  | .array [] => "[]".toList
  | .array (value :: rest) =>
      '[' :: (pad (indent + 1) ++ printPretty (indent + 1) value ++
        printPrettyValues (indent + 1) rest ++ pad indent) ++ [']']
  | .object [] => "{}".toList
  | .object (field :: rest) =>
      '{' :: (pad (indent + 1) ++ printPrettyField (indent + 1) field ++
        printPrettyFields (indent + 1) rest ++ pad indent) ++ ['}']
  | .null => "null".toList
  | .bool value => if value then "true".toList else "false".toList
  | .number value => printNumber value
  | .string value => printString value

def printPrettyValues (indent : Nat) : List Value → List Char
  | [] => []
  | value :: rest =>
      ',' :: (pad indent ++ printPretty indent value ++
        printPrettyValues indent rest)

def printPrettyField (indent : Nat) : String × Value → List Char
  | (key, value) => printString key ++ ": ".toList ++ printPretty indent value

def printPrettyFields (indent : Nat) : List (String × Value) → List Char
  | [] => []
  | field :: rest =>
      ',' :: (pad indent ++ printPrettyField indent field ++
        printPrettyFields indent rest)

end

/-! What is printed is a text. -/

theorem Blank.nil : Blank [] := by
  intro char member
  cases member

theorem StringBody.append {left right : List Char} (first : StringBody left)
    (second : StringBody right) : StringBody (left ++ right) := by
  induction first with
  | empty => exact second
  | plain plain _ induction => exact .plain plain induction
  | escape escape _ induction => exact .escape escape induction
  | unicode quad _ induction => exact .unicode quad induction

theorem hexDigit_hexLower {digit : Nat} (small : digit < 16) :
    (hexDigit (hexLower digit)).isSome = true := by
  have checked : ∀ digit < 16, (hexDigit (hexLower digit)).isSome = true := by
    decide
  exact checked digit small

theorem escapeChar_body (char : Char) : StringBody (escapeChar char) := by
  unfold escapeChar
  split
  · exact .escape (by decide) .empty
  · rename_i notQuote
    split
    · exact .escape (by decide) .empty
    · rename_i notBackslash
      split
      · exact .escape (by decide) .empty
      · split
        · exact .escape (by decide) .empty
        · split
          · exact .escape (by decide) .empty
          · split
            · exact .escape (by decide) .empty
            · split
              · exact .escape (by decide) .empty
              · split
                · rename_i control
                  refine .unicode ?_ .empty
                  have zero : hexDigit '0' = some 0 := by decide
                  obtain ⟨high, first⟩ := Option.isSome_iff_exists.mp
                    (@hexDigit_hexLower (char.toNat / 16) (by omega))
                  obtain ⟨low, second⟩ := Option.isSome_iff_exists.mp
                    (@hexDigit_hexLower (char.toNat % 16) (by omega))
                  simp [hexQuad, zero, first, second]
                · rename_i printed
                  refine .plain ?_ .empty
                  simp [isPlain, notQuote, notBackslash, printed]

theorem flatMap_escapeChar_body (chars : List Char) :
    StringBody (chars.flatMap escapeChar) := by
  induction chars with
  | nil => exact .empty
  | cons char rest induction =>
      rw [List.flatMap_cons]
      exact (escapeChar_body char).append induction

theorem printString_spells (text : String) :
    Spells .value (printString text) :=
  .string (flatMap_escapeChar_body text.toList)

theorem isDigit_digitChar {digit : Nat} (small : digit < 10) :
    isDigit digit.digitChar = true := by
  have checked : ∀ digit < 10, isDigit digit.digitChar = true := by decide
  exact checked digit small

theorem digitChar_ne_zero {digit : Nat} (small : digit < 10)
    (positive : 0 < digit) : digit.digitChar ≠ '0' := by
  have checked : ∀ digit < 10, 0 < digit → digit.digitChar ≠ '0' := by decide
  exact checked digit small positive

theorem toDigits_digits (value : Nat) :
    ∀ char ∈ Nat.toDigits 10 value, isDigit char = true := by
  induction value using Nat.strongRecOn with
  | ind value induction =>
      intro char member
      rw [Nat.toDigits_eq_if (by decide)] at member
      split at member
      · rename_i small
        rw [List.mem_singleton] at member
        rw [member]
        exact isDigit_digitChar small
      · rcases List.mem_append.mp member with member | member
        · exact induction (value / 10) (by omega) char member
        · rw [List.mem_singleton] at member
          rw [member]
          exact isDigit_digitChar (Nat.mod_lt _ (by decide))

theorem head_toDigits {value : Nat} (positive : 0 < value) :
    ∃ char rest, Nat.toDigits 10 value = char :: rest ∧ char ≠ '0' := by
  induction value using Nat.strongRecOn with
  | ind value induction =>
      rw [Nat.toDigits_eq_if (by decide)]
      split
      · rename_i small
        exact ⟨_, [], rfl, digitChar_ne_zero small positive⟩
      · obtain ⟨char, rest, digits, nonzero⟩ :=
          induction (value / 10) (by omega) (by omega)
        exact ⟨char, rest ++ [(value % 10).digitChar], by rw [digits]; rfl,
          nonzero⟩

theorem isInt_toDigits (value : Nat) :
    isInt (Nat.toDigits 10 value) = true := by
  rcases Nat.eq_zero_or_pos value with rfl | positive
  · decide
  · obtain ⟨char, rest, digits, nonzero⟩ := head_toDigits positive
    have every := toDigits_digits value
    rw [digits] at every ⊢
    have first := every char List.mem_cons_self
    have others : rest.all isDigit = true := by
      apply List.all_eq_true.mpr
      intro other member
      exact every other (List.mem_cons_of_mem _ member)
    unfold isInt
    split
    · rfl
    · rename_i cons
      cases cons
      simp [first, others, nonzero]
    · rename_i nil
      cases nil

theorem isNumber_toString (value : Nat) :
    IsNumber (toString value).toList := by
  refine ⟨[], (toString value).toList, [], [], by simp, .inl rfl, ?_, rfl, rfl⟩
  rw [Nat.toString_eq_repr, Nat.toList_repr]
  exact isInt_toDigits value

theorem isNumber_printNumber (number : Number) :
    IsNumber (printNumber number) := by
  cases number with
  | posInt value => exact isNumber_toString value
  | float literal => exact literal.valid
  | negInt value =>
      cases value with
      | ofNat value => exact isNumber_toString value
      | negSucc value =>
          refine ⟨['-'], (toString (value + 1)).toList, [], [], ?_, .inr rfl, ?_,
            rfl, rfl⟩
          · rw [printNumber, List.append_nil, List.append_nil]
            exact String.toList_append
          · rw [Nat.toString_eq_repr, Nat.toList_repr]
            exact isInt_toDigits _

theorem Spells.alone {text : List Char} (value : Spells .value text) :
    Spells .element text := by
  have spelled := Spells.element Blank.nil value Blank.nil
  rwa [List.append_nil, List.nil_append] at spelled

mutual

theorem print_spells : ∀ value, Spells .value (print value)
  | .null => .null
  | .bool true => .true
  | .bool false => .false
  | .number value => .number (isNumber_printNumber value)
  | .string value => printString_spells value
  | .array [] => .emptyArray Blank.nil
  | .array (value :: rest) =>
      .array (printMoreValues_spells rest (print_spells value).alone)
  | .object [] => .emptyObject Blank.nil
  | .object (field :: rest) =>
      .object (printMoreFields_spells rest (printField_spells field))

theorem printMoreValues_spells : ∀ rest {text : List Char},
    Spells .element text → Spells .elements (text ++ printMoreValues rest)
  | [], text, element => by
      rw [printMoreValues, List.append_nil]
      exact .lastElement element
  | value :: rest, text, element =>
      .elements element (printMoreValues_spells rest (print_spells value).alone)

theorem printField_spells : ∀ field, Spells .member (printField field)
  | (key, value) =>
      .member Blank.nil (flatMap_escapeChar_body key.toList) Blank.nil
        (print_spells value).alone

theorem printMoreFields_spells : ∀ rest {text : List Char},
    Spells .member text → Spells .members (text ++ printMoreFields rest)
  | [], text, member => by
      rw [printMoreFields, List.append_nil]
      exact .lastMember member
  | field :: rest, text, member =>
      .members member (printMoreFields_spells rest (printField_spells field))

end

end Bowerbird.Protocol.Json
