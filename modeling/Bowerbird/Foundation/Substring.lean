import Mathlib.Data.List.Infix

namespace Bowerbird.Foundation.Substring

/-! Looking for a pattern in a text, and writing something else in its place. -/

variable {α : Type} [DecidableEq α]

/-- Where the pattern first stands. -/
def find (pattern : List α) : List α → Option Nat
  | [] => if pattern = [] then some 0 else none
  | char :: rest =>
      if pattern <+: char :: rest then some 0
      else (find pattern rest).map (· + 1)

/-- The text before the pattern, and the text after it. -/
def cut (pattern text : List α) : Option (List α × List α) :=
  (find pattern text).map fun index =>
    (text.take index, text.drop (index + pattern.length))

/-- The text between the first opening pattern and the first closing one. -/
def element (opening closing text : List α) : Option (List α) := do
  let start ← find opening text
  let stop ← find closing text
  if stop < start then none
  else some ((text.take stop).drop (start + opening.length))

/-- So many characters have been replaced already. -/
def replaceFrom (pattern replacement : List α) : Nat → List α → List α
  | _, [] => []
  | skip + 1, _ :: rest => replaceFrom pattern replacement skip rest
  | 0, char :: rest =>
      if pattern <+: char :: rest then
        replacement ++ replaceFrom pattern replacement (pattern.length - 1) rest
      else char :: replaceFrom pattern replacement 0 rest

def replace (pattern replacement text : List α) : List α :=
  replaceFrom pattern replacement 0 text

/-! A text in which no pattern begins, whatever comes after it. -/

/-- The two differ before either ends. -/
def clashes : List α → List α → Bool
  | wanted :: pattern, char :: text => wanted ≠ char || clashes pattern text
  | _, _ => false

def free (pattern : List α) : List α → Bool
  | [] => true
  | char :: rest => clashes pattern (char :: rest) && free pattern rest

section Free

variable {pattern text front : List α}

theorem clashes_append (clash : clashes pattern text = true) (rest : List α) :
    clashes pattern (text ++ rest) = true := by
  induction text generalizing pattern with
  | nil => cases pattern <;> cases clash
  | cons char text induction =>
      cases pattern with
      | nil => cases clash
      | cons wanted pattern =>
          simp only [clashes, List.cons_append, Bool.or_eq_true] at clash ⊢
          exact clash.imp_right induction

theorem not_prefix_of_clashes (clash : clashes pattern text = true) :
    ¬ pattern <+: text := by
  induction text generalizing pattern with
  | nil => cases pattern <;> cases clash
  | cons char text induction =>
      cases pattern with
      | nil => cases clash
      | cons wanted pattern =>
          simp only [clashes, Bool.or_eq_true, decide_eq_true_eq] at clash
          rw [List.cons_prefix_cons]
          rintro ⟨same, begins⟩
          rcases clash with differs | clash
          · exact differs same
          · exact induction clash begins

theorem free_append (first : free pattern front = true)
    (second : free pattern text = true) :
    free pattern (front ++ text) = true := by
  induction front with
  | nil => exact second
  | cons char rest induction =>
      rw [free, Bool.and_eq_true] at first
      rw [List.cons_append, free, Bool.and_eq_true]
      exact ⟨clashes_append first.1 text, induction first.2⟩

/-- A pattern begins nowhere in a text without its first character. -/
theorem free_of_not_mem {head : α} (absent : head ∉ text) :
    free (head :: pattern) text = true := by
  induction text with
  | nil => rfl
  | cons char rest induction =>
      rw [List.mem_cons, not_or] at absent
      rw [free, Bool.and_eq_true]
      refine ⟨?_, induction absent.2⟩
      simp [clashes, absent.1]

theorem not_prefix_of_free {char : α}
    (free : free pattern (char :: front) = true) (rest : List α) :
    ¬ pattern <+: char :: (front ++ rest) := by
  rw [Substring.free, Bool.and_eq_true] at free
  exact not_prefix_of_clashes (clashes_append free.1 rest)

theorem free_tail {char : α} (free : free pattern (char :: front) = true) :
    Substring.free pattern front = true := by
  rw [Substring.free, Bool.and_eq_true] at free
  exact free.2

theorem find_append (free : free pattern front = true) (rest : List α) :
    find pattern (front ++ rest) =
      (find pattern rest).map (· + front.length) := by
  induction front with
  | nil => simp
  | cons char front induction =>
      rw [List.cons_append, find, if_neg (not_prefix_of_free free rest),
        induction (free_tail free), Option.map_map]
      rfl

theorem find_free (filled : pattern ≠ []) (free : free pattern text = true) :
    find pattern text = none := by
  have absent := find_append free []
  rwa [List.append_nil, find, if_neg filled] at absent

theorem find_self (pattern rest : List α) :
    find pattern (pattern ++ rest) = some 0 := by
  cases pattern with
  | nil => cases rest <;> simp [find]
  | cons char pattern =>
      rw [List.cons_append, find, if_pos]
      exact List.prefix_append (char :: pattern) rest

theorem find_after (free : free pattern front = true) (rest : List α) :
    find pattern (front ++ (pattern ++ rest)) = some front.length := by
  rw [find_append free, find_self, Option.map_some, Nat.zero_add]

theorem cut_after (free : free pattern front = true) (rest : List α) :
    cut pattern (front ++ (pattern ++ rest)) = some (front, rest) := by
  rw [cut, find_after free, Option.map_some, List.take_left, List.drop_append,
    List.drop_append]
  simp

theorem find_le {index : Nat} (found : find pattern text = some index) :
    index + pattern.length ≤ text.length := by
  induction text generalizing index with
  | nil =>
      rw [find] at found
      split at found
      · rename_i empty
        cases found
        rw [empty]
        exact Nat.le_refl 0
      · cases found
  | cons char rest induction =>
      rw [find] at found
      split at found
      · rename_i begins
        cases found
        rw [Nat.zero_add]
        exact begins.length_le
      · obtain ⟨earlier, before, rfl⟩ := Option.map_eq_some_iff.mp found
        have shorter := induction before
        rw [List.length_cons]
        omega

/-- What is found in the beginning of a text stands whole in it, and is found
there in the text. -/
theorem find_take {count index : Nat}
    (found : find pattern (text.take count) = some index) :
    index + pattern.length ≤ count ∧ find pattern text = some index := by
  induction text generalizing count index with
  | nil =>
      rw [List.take_nil, find] at found
      split at found
      · rename_i empty
        cases found
        rw [empty]
        exact ⟨Nat.zero_le _, rfl⟩
      · cases found
  | cons char rest induction =>
      cases count with
      | zero =>
          rw [List.take_zero, find] at found
          split at found
          · rename_i empty
            cases found
            rw [empty]
            exact ⟨Nat.zero_le _, rfl⟩
          · cases found
      | succ count =>
          rw [List.take_succ_cons, find] at found
          split at found
          · rename_i begins
            cases found
            have short := begins.length_le
            rw [List.length_cons, List.length_take] at short
            refine ⟨by omega, ?_⟩
            rw [find, if_pos]
            exact begins.trans (List.take_succ_cons ▸ List.take_prefix _ _)
          · rename_i differs
            cases later : find pattern (rest.take count) with
            | none => rw [later] at found; cases found
            | some place =>
                rw [later] at found
                cases found
                obtain ⟨room, there⟩ := induction later
                refine ⟨by dsimp only; omega, ?_⟩
                rw [find, if_neg, there]
                · rfl
                · intro begins
                  apply differs
                  rw [← List.take_succ_cons]
                  exact List.prefix_take_iff.mpr ⟨begins, by omega⟩

theorem length_of_cut {before after : List α}
    (found : cut pattern text = some (before, after)) :
    after.length + pattern.length ≤ text.length := by
  obtain ⟨index, begins, same⟩ := Option.map_eq_some_iff.mp found
  cases same
  have inside := find_le begins
  rw [List.length_drop]
  omega

theorem element_eq {opening closing before body : List α}
    (unopened : free opening before = true)
    (unclosed : free closing (before ++ (opening ++ body)) = true)
    (rest : List α) :
    element opening closing
      (before ++ (opening ++ (body ++ (closing ++ rest)))) = some body := by
  have whole : before ++ (opening ++ (body ++ (closing ++ rest))) =
      before ++ (opening ++ body) ++ (closing ++ rest) := by
    simp only [List.append_assoc]
  have inside : ¬ (before ++ (opening ++ body)).length < before.length := by
    rw [List.length_append]
    omega
  have stop := find_after unclosed rest
  rw [← whole] at stop
  simp only [element, find_after unopened, stop, Option.bind_eq_bind,
    Option.bind_some]
  rw [if_neg inside, whole, List.take_left, ← List.append_assoc,
    ← List.length_append, List.drop_left]

/-- The element that follows a marker. -/
theorem element_after_marker {marker opening closing gap body : List α}
    (front : List α) (unopened : free opening (marker ++ gap) = true)
    (unclosed : free closing (marker ++ (gap ++ (opening ++ body))) = true)
    (rest : List α) :
    element opening closing ((front ++ (marker ++ (gap ++ (opening ++
      (body ++ (closing ++ rest)))))).drop front.length) = some body := by
  rw [List.drop_left, ← List.append_assoc marker]
  rw [← List.append_assoc marker] at unclosed
  exact element_eq unopened unclosed rest

/-! Replacing. -/

theorem replaceFrom_skip {skipped : List α} (replacement rest : List α) :
    replaceFrom pattern replacement skipped.length (skipped ++ rest) =
      replaceFrom pattern replacement 0 rest := by
  induction skipped with
  | nil => rfl
  | cons char skipped induction =>
      rw [List.length_cons, List.cons_append, replaceFrom, induction]

theorem replace_append (free : free pattern front = true)
    (replacement rest : List α) :
    replace pattern replacement (front ++ rest) =
      front ++ replace pattern replacement rest := by
  induction front with
  | nil => rfl
  | cons char front induction =>
      rw [replace, List.cons_append, replaceFrom,
        if_neg (not_prefix_of_free free rest), List.cons_append]
      exact congrArg (char :: ·) (induction (free_tail free))

theorem replace_self (filled : pattern ≠ []) (replacement rest : List α) :
    replace pattern replacement (pattern ++ rest) =
      replacement ++ replace pattern replacement rest := by
  cases pattern with
  | nil => exact absurd rfl filled
  | cons char tail =>
      have begins : char :: tail <+: char :: (tail ++ rest) :=
        List.prefix_append (char :: tail) rest
      rw [replace, List.cons_append, replaceFrom, if_pos begins,
        List.length_cons, Nat.add_sub_cancel, replaceFrom_skip]
      rfl

/-- One pass over a text written character by character: where a character is
the pattern it becomes the replacement, and no other has the pattern in it. -/
theorem replace_flatMap {β : Type} {written read : β → List α}
    (filled : pattern ≠ []) (replacement : List α)
    (pass : ∀ char, written char = pattern ∧ read char = replacement ∨
      free pattern (written char) = true ∧ read char = written char)
    (chars : List β) :
    replace pattern replacement (chars.flatMap written) =
      chars.flatMap read := by
  induction chars with
  | nil => rfl
  | cons char rest induction =>
      rw [List.flatMap_cons, List.flatMap_cons, ← induction]
      rcases pass char with ⟨whole, becomes⟩ | ⟨free, same⟩
      · rw [whole, becomes, replace_self filled]
      · rw [replace_append free, same]

end Free

end Bowerbird.Foundation.Substring
