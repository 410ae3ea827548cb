import Mathlib.Data.List.Infix

namespace Bowerbird.Foundation

/-! Words read by a scanner that knows how deep it is.  A word that stays deep
until its last symbol is no beginning of another such word. -/

section Scanner

variable {Symbol State : Type} {step : State → Symbol → State}
variable {depth : State → Nat} {state inner : State}
variable {word left right : List Symbol}

/-- The word leads back to the state, and never above it on the way. -/
structure Balanced (step : State → Symbol → State) (depth : State → Nat)
    (state : State) (word : List Symbol) : Prop where
  returns : word.foldl step state = state
  within : ∀ start, start <+: word →
    depth state ≤ depth (start.foldl step state)

/-- The word leads back to the state with its last symbol only. -/
structure Enclosed (step : State → Symbol → State) (depth : State → Nat)
    (state : State) (word : List Symbol) : Prop where
  returns : word.foldl step state = state
  inside : ∀ start, start <+: word → start ≠ [] → start ≠ word →
    depth state < depth (start.foldl step state)

theorem Balanced.nil : Balanced step depth state [] where
  returns := rfl
  within := by
    intro start begins
    rw [List.prefix_nil.mp begins]
    exact Nat.le_refl _

theorem Balanced.append (first : Balanced step depth state left)
    (second : Balanced step depth state right) :
    Balanced step depth state (left ++ right) where
  returns := by rw [List.foldl_append, first.returns, second.returns]
  within := by
    intro start begins
    rcases List.prefix_or_prefix_of_prefix begins (List.prefix_append left right)
      with early | ⟨late, rfl⟩
    · exact first.within start early
    · rw [List.foldl_append, first.returns]
      exact second.within late ((List.prefix_append_right_inj left).mp begins)

theorem Balanced.single {symbol : Symbol}
    (fixed : step state symbol = state) :
    Balanced step depth state [symbol] where
  returns := fixed
  within := by
    intro start begins
    rcases List.prefix_cons_iff.mp begins with rfl | ⟨rest, rfl, empty⟩
    · exact Nat.le_refl _
    · rw [List.prefix_nil.mp empty, List.foldl_cons, fixed, List.foldl_nil]

/-- A word of symbols that change nothing. -/
theorem Balanced.idle (fixed : ∀ symbol ∈ word, step state symbol = state) :
    Balanced step depth state word := by
  induction word with
  | nil => exact .nil
  | cons symbol rest induction =>
      have first := fixed symbol List.mem_cons_self
      apply (Balanced.single first).append
      apply induction
      intro other member
      exact fixed other (List.mem_cons_of_mem _ member)

/-- On the way through the wrapped word the scanner is at the inner state's depth
or deeper. -/
theorem Balanced.wrapped_within {opening closing : Symbol}
    (balanced : Balanced step depth inner word)
    (opens : step state opening = inner) {start : List Symbol}
    (begins : start <+: opening :: word ++ [closing]) (some' : start ≠ [])
    (proper : start ≠ opening :: word ++ [closing]) :
    depth inner ≤ depth (start.foldl step state) := by
  cases start with
  | nil => exact absurd rfl some'
  | cons symbol rest =>
      rw [List.cons_append, List.cons_prefix_cons] at begins
      obtain ⟨rfl, begins⟩ := begins
      rw [List.foldl_cons, opens]
      rcases List.prefix_concat_iff.mp begins with rfl | early
      · exact absurd rfl proper
      · exact balanced.within rest early

theorem Balanced.wrapped_returns {opening closing : Symbol}
    (balanced : Balanced step depth inner word)
    (opens : step state opening = inner)
    (closes : step inner closing = state) :
    (opening :: word ++ [closing]).foldl step state = state := by
  rw [List.cons_append, List.foldl_cons, opens, List.foldl_append,
    balanced.returns, List.foldl_cons, closes, List.foldl_nil]

theorem Balanced.wrap {opening closing : Symbol}
    (balanced : Balanced step depth inner word)
    (opens : step state opening = inner) (closes : step inner closing = state)
    (level : depth state ≤ depth inner) :
    Balanced step depth state (opening :: word ++ [closing]) where
  returns := balanced.wrapped_returns opens closes
  within := by
    intro start begins
    by_cases empty : start = []
    · rw [empty]
      exact Nat.le_refl _
    · by_cases whole : start = opening :: word ++ [closing]
      · rw [whole, balanced.wrapped_returns opens closes]
      · exact level.trans (balanced.wrapped_within opens begins empty whole)

theorem Balanced.enclose {opening closing : Symbol}
    (balanced : Balanced step depth inner word)
    (opens : step state opening = inner) (closes : step inner closing = state)
    (deeper : depth state < depth inner) :
    Enclosed step depth state (opening :: word ++ [closing]) where
  returns := balanced.wrapped_returns opens closes
  inside := by
    intro start begins some' proper
    exact deeper.trans_le (balanced.wrapped_within opens begins some' proper)

theorem Enclosed.eq_of_prefix (first : Enclosed step depth state left)
    (second : Enclosed step depth state right) (some' : left ≠ [])
    (begins : left <+: right) : left = right := by
  apply Classical.byContradiction
  intro proper
  have deep := second.inside left begins some' proper
  rw [first.returns] at deep
  exact Nat.lt_irrefl _ deep

end Scanner

end Bowerbird.Foundation
