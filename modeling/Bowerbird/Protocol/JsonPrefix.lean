import Bowerbird.Protocol.JsonText

namespace Bowerbird.Protocol.Json

open Foundation

/-! No text is a proper beginning of an object's: a scanner that counts brackets
outside strings is back where it started only at an object's last character. -/

inductive Mode where
  | plain
  | quoted
  | escaped
  deriving Repr, DecidableEq

structure Scan where
  depth : Nat
  mode : Mode
  deriving Repr, DecidableEq

def Scan.step (scan : Scan) (char : Char) : Scan :=
  match scan.mode with
  | .escaped => { scan with mode := .quoted }
  | .quoted =>
      if char = '"' then { scan with mode := .plain }
      else if char = '\\' then { scan with mode := .escaped }
      else scan
  | .plain =>
      if char = '"' then { scan with mode := .quoted }
      else if char = '{' ∨ char = '[' then { scan with depth := scan.depth + 1 }
      else if char = '}' ∨ char = ']' then { scan with depth := scan.depth - 1 }
      else scan

def isNeutral (char : Char) : Bool :=
  !(char == '"' || char == '{' || char == '[' || char == '}' || char == ']')

/-- Balanced wherever a value may stand. -/
def Even (text : List Char) : Prop :=
  ∀ depth, Balanced Scan.step Scan.depth ⟨depth, .plain⟩ text

theorem Even.append {left right : List Char} (first : Even left)
    (second : Even right) : Even (left ++ right) :=
  fun depth => (first depth).append (second depth)

theorem Even.neutral {text : List Char}
    (neutral : text.all isNeutral = true) : Even text := by
  intro depth
  apply Balanced.idle
  intro char member
  have plain := List.all_eq_true.mp neutral char member
  simp only [isNeutral, Bool.not_eq_true', Bool.or_eq_false_iff,
    beq_eq_false_iff_ne] at plain
  simp [Scan.step, plain]

theorem step_opening {opening : Char} (opens : opening = '{' ∨ opening = '[')
    (depth : Nat) :
    Scan.step ⟨depth, .plain⟩ opening = ⟨depth + 1, .plain⟩ := by
  rcases opens with rfl | rfl <;> rfl

theorem step_closing {closing : Char} (closes : closing = '}' ∨ closing = ']')
    (depth : Nat) :
    Scan.step ⟨depth + 1, .plain⟩ closing = ⟨depth, .plain⟩ := by
  rcases closes with rfl | rfl <;> rfl

theorem Even.enclosed {text : List Char} {opening closing : Char} (even : Even text)
    (opens : opening = '{' ∨ opening = '[')
    (closes : closing = '}' ∨ closing = ']') (depth : Nat) :
    Enclosed Scan.step Scan.depth ⟨depth, .plain⟩
      (opening :: text ++ [closing]) :=
  (even (depth + 1)).enclose (step_opening opens depth)
    (step_closing closes depth) (Nat.lt_succ_self depth)

theorem Even.bracketed {text : List Char} {opening closing : Char}
    (even : Even text) (opens : opening = '{' ∨ opening = '[')
    (closes : closing = '}' ∨ closing = ']') :
    Even (opening :: text ++ [closing]) :=
  fun depth => (even (depth + 1)).wrap (step_opening opens depth)
    (step_closing closes depth) (Nat.le_succ depth)

/-! Strings. -/

theorem quoted_plain {char : Char} (depth : Nat) (quote : char ≠ '"')
    (backslash : char ≠ '\\') :
    Scan.step ⟨depth, .quoted⟩ char = ⟨depth, .quoted⟩ := by
  simp [Scan.step, quote, backslash]

theorem quoted_hexDigit {char : Char} (depth : Nat)
    (digit : (hexDigit char).isSome = true) :
    Scan.step ⟨depth, .quoted⟩ char = ⟨depth, .quoted⟩ := by
  apply quoted_plain
  · rintro rfl
    exact absurd digit (by decide)
  · rintro rfl
    exact absurd digit (by decide)

theorem quoted_escape (depth : Nat) (char : Char) :
    Balanced Scan.step Scan.depth ⟨depth, .quoted⟩ ['\\', char] where
  returns := rfl
  within := by
    intro start begins
    rcases List.prefix_cons_iff.mp begins with rfl | ⟨rest, rfl, short⟩
    · exact Nat.le_refl _
    · rcases List.prefix_cons_iff.mp short with rfl | ⟨rest, rfl, empty⟩
      · exact Nat.le_refl _
      · rw [List.prefix_nil.mp empty]
        exact Nat.le_refl _

theorem hexQuad_digits {a b c d : Char}
    (quad : (hexQuad a b c d).isSome = true) :
    ∀ char ∈ [a, b, c, d], (hexDigit char).isSome = true := by
  unfold hexQuad at quad
  cases first : hexDigit a with
  | none => simp [first] at quad
  | some =>
      cases second : hexDigit b with
      | none => simp [first, second] at quad
      | some =>
          cases third : hexDigit c with
          | none => simp [first, second, third] at quad
          | some =>
              cases fourth : hexDigit d with
              | none => simp [first, second, third, fourth] at quad
              | some => simp [first, second, third, fourth]

theorem StringBody.balanced {body : List Char} (spelled : StringBody body)
    (depth : Nat) :
    Balanced Scan.step Scan.depth ⟨depth, .quoted⟩ body := by
  induction spelled with
  | empty => exact .nil
  | @plain char rest plain _ induction =>
      simp only [isPlain, Bool.not_eq_true', Bool.or_eq_false_iff,
        beq_eq_false_iff_ne] at plain
      have fixed := quoted_plain depth plain.1.1 plain.1.2
      exact (Balanced.single fixed).append induction
  | @escape char rest _ _ induction =>
      exact (quoted_escape depth char).append induction
  | @unicode a b c d rest quad _ induction =>
      have digits : Balanced Scan.step Scan.depth ⟨depth, .quoted⟩
          [a, b, c, d] := by
        apply Balanced.idle
        intro char member
        exact quoted_hexDigit depth (hexQuad_digits quad char member)
      exact (quoted_escape depth 'u').append (digits.append induction)

theorem StringBody.even {body : List Char} (spelled : StringBody body) :
    Even ('"' :: body ++ ['"']) := by
  intro depth
  have inside := spelled.balanced depth
  exact inside.wrap (by rfl) (by rfl) (Nat.le_refl depth)

/-! Numbers and blanks. -/

def isNumberChar (char : Char) : Bool :=
  isDigit char || ['-', '+', '.', 'e', 'E'].contains char

theorem isNumberChar_of_digit {char : Char} (digit : isDigit char = true) :
    isNumberChar char = true := by
  rw [isNumberChar, digit, Bool.true_or]

theorem isDigits_chars {digits : List Char} (all : isDigits digits = true) :
    ∀ char ∈ digits, isNumberChar char = true := by
  intro char member
  rw [isDigits, Bool.and_eq_true] at all
  exact isNumberChar_of_digit (List.all_eq_true.mp all.2 char member)

theorem isInt_chars {whole : List Char} (number : isInt whole = true) :
    ∀ char ∈ whole, isNumberChar char = true := by
  intro char member
  unfold isInt at number
  split at number
  · rw [List.mem_singleton.mp member]
    decide
  · simp only [Bool.and_eq_true] at number
    rcases List.mem_cons.mp member with rfl | member
    · exact isNumberChar_of_digit number.1.1
    · exact isNumberChar_of_digit (List.all_eq_true.mp number.2 char member)
  · cases number

theorem isFraction_chars {fraction : List Char}
    (number : isFraction fraction = true) :
    ∀ char ∈ fraction, isNumberChar char = true := by
  intro char member
  unfold isFraction at number
  split at number
  · cases member
  · rcases List.mem_cons.mp member with rfl | member
    · decide
    · exact isDigits_chars number char member
  · cases number

theorem isExponent_chars {exponent : List Char}
    (number : isExponent exponent = true) :
    ∀ char ∈ exponent, isNumberChar char = true := by
  have marked : ∀ {mark : Char}, (mark == 'e' || mark == 'E') = true →
      isNumberChar mark = true := by
    intro mark marks
    rw [Bool.or_eq_true, beq_iff_eq, beq_iff_eq] at marks
    rcases marks with rfl | rfl <;> decide
  intro char member
  unfold isExponent at number
  split at number
  · cases member
  · rw [Bool.and_eq_true] at number
    rcases List.mem_cons.mp member with rfl | member
    · exact marked number.1
    · rcases List.mem_cons.mp member with rfl | member
      · decide
      · exact isDigits_chars number.2 char member
  · rw [Bool.and_eq_true] at number
    rcases List.mem_cons.mp member with rfl | member
    · exact marked number.1
    · rcases List.mem_cons.mp member with rfl | member
      · decide
      · exact isDigits_chars number.2 char member
  · rw [Bool.and_eq_true] at number
    rcases List.mem_cons.mp member with rfl | member
    · exact marked number.1
    · exact isDigits_chars number.2 char member

theorem IsNumber.chars {text : List Char} (number : IsNumber text) :
    ∀ char ∈ text, isNumberChar char = true := by
  obtain ⟨sign, whole, fraction, exponent, rfl, signed, int, decimals, power⟩ :=
    number
  intro char member
  simp only [List.mem_append] at member
  rcases member with ((member | member) | member) | member
  · rcases signed with rfl | rfl
    · cases member
    · rw [List.mem_singleton.mp member]
      decide
  · exact isInt_chars int char member
  · exact isFraction_chars decimals char member
  · exact isExponent_chars power char member

theorem IsNumber.neutral {text : List Char} (number : IsNumber text) :
    text.all isNeutral = true := by
  apply List.all_eq_true.mpr
  intro char member
  have numeric := number.chars char member
  unfold isNeutral
  rw [Bool.not_eq_true']
  apply Bool.eq_false_iff.mpr
  intro special
  simp only [Bool.or_eq_true, beq_iff_eq] at special
  rcases special with (((rfl | rfl) | rfl) | rfl) | rfl <;>
    exact absurd numeric (by decide)

theorem Blank.even {text : List Char} (blank : Blank text) : Even text := by
  apply Even.neutral
  apply List.all_eq_true.mpr
  intro char member
  have space := blank char member
  simp only [isSpace, Bool.or_eq_true, beq_iff_eq] at space
  rcases space with ((rfl | rfl) | rfl) | rfl <;> decide

/-! Texts. -/

theorem Spells.even {part : Part} {text : List Char}
    (spells : Spells part text) : Even text := by
  induction spells with
  | null => exact .neutral (by decide)
  | true => exact .neutral (by decide)
  | false => exact .neutral (by decide)
  | number number => exact .neutral number.neutral
  | string spelled => exact spelled.even
  | emptyArray blank => exact blank.even.bracketed (.inr rfl) (.inr rfl)
  | array _ induction => exact induction.bracketed (.inr rfl) (.inr rfl)
  | emptyObject blank => exact blank.even.bracketed (.inl rfl) (.inl rfl)
  | object _ induction => exact induction.bracketed (.inl rfl) (.inl rfl)
  | element leads _ trails induction =>
      exact leads.even.append (induction.append trails.even)
  | lastElement _ induction => exact induction
  | elements _ _ first second =>
      exact first.append ((Even.neutral (by decide)).append second)
  | member leads key trails _ induction =>
      apply leads.even.append
      apply key.even.append
      apply trails.even.append
      exact (Even.neutral (by decide)).append induction
  | lastMember _ induction => exact induction
  | members _ _ first second =>
      exact first.append ((Even.neutral (by decide)).append second)

/-- A value that opens with a brace closes with its last character. -/
theorem Spells.enclosed {rest : List Char}
    (spells : Spells .value ('{' :: rest)) :
    Enclosed Scan.step Scan.depth ⟨0, .plain⟩ ('{' :: rest) := by
  generalize written : '{' :: rest = text at spells
  cases spells with
  | null => cases written
  | true => cases written
  | false => cases written
  | number number =>
      have neutral := List.all_eq_true.mp number.neutral '{'
        (written ▸ List.mem_cons_self)
      exact absurd neutral (by decide)
  | string => cases written
  | emptyArray => cases written
  | array => cases written
  | emptyObject blank => exact blank.even.enclosed (.inl rfl) (.inl rfl) 0
  | object members => exact members.even.enclosed (.inl rfl) (.inl rfl) 0

theorem Spells.ne_nil {text : List Char} (spells : Spells .value text) :
    text ≠ [] := by
  cases spells with
  | number number =>
      obtain ⟨sign, whole, fraction, exponent, rfl, _, int, _, _⟩ := number
      intro empty
      simp only [List.append_eq_nil_iff] at empty
      rw [empty.1.1.2] at int
      cases int
  | _ => exact List.cons_ne_nil _ _

/-- A text that begins like an object begins with an object. -/
theorem IsText.begins_enclosed {rest : List Char}
    (text : IsText ('{' :: rest)) :
    ∃ object after, '{' :: rest = object ++ after ∧ object ≠ [] ∧
      Enclosed Scan.step Scan.depth ⟨0, .plain⟩ object := by
  generalize written : '{' :: rest = whole at text
  cases text with
  | @element before value after leads spells _ =>
      cases before with
      | cons char before =>
          cases written
          exact absurd (leads '{' List.mem_cons_self) (by decide)
      | nil =>
          cases value with
          | nil => exact absurd rfl spells.ne_nil
          | cons char value =>
              cases written
              exact ⟨_, after, rfl, List.cons_ne_nil _ _, spells.enclosed⟩

theorem print_object (fields : List (String × Value)) :
    ∃ rest, print (.object fields) = '{' :: rest := by
  cases fields with
  | nil => exact ⟨['}'], by simp only [print]; rfl⟩
  | cons field rest => exact ⟨_, by rw [print]; rfl⟩

theorem IsText.ne_nil {text : List Char} (spelled : IsText text) :
    text ≠ [] := by
  cases spelled with
  | element _ spells _ =>
      intro empty
      simp only [List.append_eq_nil_iff] at empty
      exact spells.ne_nil empty.2.1

/-- Cut short anywhere, a printed object is no text. -/
theorem not_isText_of_cut {fields : List (String × Value)} {cut : List Char}
    (begins : cut <+: print (.object fields))
    (proper : cut ≠ print (.object fields)) : ¬ IsText cut := by
  intro text
  obtain ⟨rest, opens⟩ := print_object fields
  have printed := print_spells (.object fields)
  rw [opens] at begins proper printed
  rcases List.prefix_cons_iff.mp begins with rfl | ⟨cut, rfl, _⟩
  · exact text.ne_nil rfl
  · obtain ⟨object, after, whole, some', enclosed⟩ := text.begins_enclosed
    have early : object <+: '{' :: rest := by
      apply List.IsPrefix.trans _ begins
      rw [whole]
      exact List.prefix_append object after
    have same := enclosed.eq_of_prefix printed.enclosed some' early
    apply proper
    apply begins.eq_of_length_le
    rw [whole, ← same, List.length_append]
    exact Nat.le_add_right _ _

/-! What is printed is on one line. -/

/-- Not a control character. -/
def Visible (text : List Char) : Prop :=
  ∀ char ∈ text, 0x20 ≤ char.toNat

instance (text : List Char) : Decidable (Visible text) :=
  List.decidableBAll (fun char : Char => 0x20 ≤ char.toNat) text

theorem Visible.append {left right : List Char} (first : Visible left)
    (second : Visible right) : Visible (left ++ right) := by
  intro char member
  rcases List.mem_append.mp member with member | member
  · exact first char member
  · exact second char member

theorem Visible.wrap {text : List Char} {opening closing : Char}
    (visible : Visible text) (opens : 0x20 ≤ opening.toNat)
    (closes : 0x20 ≤ closing.toNat) :
    Visible (opening :: text ++ [closing]) := by
  intro char member
  rw [List.cons_append, List.mem_cons, List.mem_append,
    List.mem_singleton] at member
  rcases member with rfl | member | rfl
  · exact opens
  · exact visible char member
  · exact closes

theorem IsNumber.visible {text : List Char} (number : IsNumber text) :
    Visible text := by
  intro char member
  have numeric := number.chars char member
  simp only [isNumberChar, isDigit, Bool.or_eq_true, Bool.and_eq_true,
    decide_eq_true_eq, List.contains_eq_mem, List.mem_cons, List.not_mem_nil,
    or_false] at numeric
  rcases numeric with digit | rfl | rfl | rfl | rfl | rfl
  · have zero : '0'.toNat ≤ char.toNat := digit.1
    exact Nat.le_trans (by decide) zero
  all_goals decide

theorem hexLower_visible {digit : Nat} (small : digit < 16) :
    0x20 ≤ (hexLower digit).toNat := by
  have checked : ∀ digit < 16, 0x20 ≤ (hexLower digit).toNat := by decide
  exact checked digit small

theorem escapeChar_visible (char : Char) : Visible (escapeChar char) := by
  unfold escapeChar
  split
  · decide
  · split
    · decide
    · split
      · decide
      · split
        · decide
        · split
          · decide
          · split
            · decide
            · split
              · decide
              · split
                · rename_i control
                  intro other member
                  simp only [List.mem_cons, List.not_mem_nil,
                    or_false] at member
                  rcases member with rfl | rfl | rfl | rfl | rfl | rfl
                  · decide
                  · decide
                  · decide
                  · decide
                  · exact hexLower_visible (by omega)
                  · exact hexLower_visible (by omega)
                · rename_i visible
                  intro other member
                  rw [List.mem_singleton.mp member]
                  exact Nat.le_of_not_lt visible

theorem printString_visible (text : String) : Visible (printString text) := by
  apply Visible.wrap
  · intro char member
    obtain ⟨raw, _, member⟩ := List.mem_flatMap.mp member
    exact escapeChar_visible raw char member
  · decide
  · decide

mutual

theorem print_visible : ∀ value, Visible (print value)
  | .null => by decide
  | .bool true => by decide
  | .bool false => by decide
  | .number value => (isNumber_printNumber value).visible
  | .string value => printString_visible value
  | .array [] => by decide
  | .array (value :: rest) =>
      ((print_visible value).append (printMoreValues_visible rest)).wrap
        (by decide) (by decide)
  | .object [] => by decide
  | .object (field :: rest) =>
      ((printField_visible field).append (printMoreFields_visible rest)).wrap
        (by decide) (by decide)

theorem printMoreValues_visible : ∀ rest, Visible (printMoreValues rest)
  | [] => by decide
  | value :: rest =>
      Visible.append (by decide)
        ((print_visible value).append (printMoreValues_visible rest))

theorem printField_visible : ∀ field, Visible (printField field)
  | (key, value) =>
      (printString_visible key).append
        (Visible.append (by decide) (print_visible value))

theorem printMoreFields_visible : ∀ rest, Visible (printMoreFields rest)
  | [] => by decide
  | field :: rest =>
      Visible.append (by decide)
        ((printField_visible field).append (printMoreFields_visible rest))

end

end Bowerbird.Protocol.Json
