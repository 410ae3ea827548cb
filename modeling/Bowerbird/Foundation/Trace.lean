import Mathlib.Data.List.Basic
import Mathlib.Tactic.Common

namespace Bowerbird.Foundation

/-! What a sequence of observations says about its past. -/

namespace Trace

variable {Seen Value : Type}

/-- Where an entry of a sequence stands when the sequence has grown. -/
theorem split_append {seen out early late : List Seen} {here : Seen}
    (split : seen ++ out = early ++ here :: late) :
    (∃ rest, late = rest ++ out ∧ seen = early ++ here :: rest) ∨
      ∃ front, early = seen ++ front ∧ out = front ++ here :: late := by
  rcases List.append_eq_append_iff.mp split with
    ⟨front, rfl, tail⟩ | ⟨rest, rfl, tail⟩
  · exact .inr ⟨front, rfl, tail⟩
  · cases rest with
    | nil => exact .inr ⟨[], by simp, tail.symm⟩
    | cons head rest =>
        obtain ⟨rfl, rfl⟩ := List.cons_eq_cons.mp tail
        exact .inl ⟨rest, rfl, rfl⟩

section Each

variable {holds : List Seen → Seen → Prop}

/-- Everything seen stands in the given relation to what was seen before it. -/
def Each (holds : List Seen → Seen → Prop) (seen : List Seen) : Prop :=
  ∀ early here late, seen = early ++ here :: late → holds early here

theorem each_nil : Each holds [] := by
  intro early here late split
  simp at split

theorem Each.append {seen out : List Seen} (before : Each holds seen)
    (after : Each (fun past => holds (seen ++ past)) out) :
    Each holds (seen ++ out) := by
  intro early here late split
  rcases split_append split with ⟨rest, _, within⟩ | ⟨front, rfl, within⟩
  · exact before early here rest within
  · exact after front here late within

theorem Each.of_append {seen out : List Seen}
    (each : Each holds (seen ++ out)) : Each holds seen := by
  intro early here late split
  exact each early here (late ++ out) (by simp [split])

theorem Each.last {seen : List Seen} {here : Seen}
    (each : Each holds (seen ++ [here])) : holds seen here :=
  each seen here [] rfl

theorem each_cons {here : Seen} {rest : List Seen} :
    Each holds (here :: rest) ↔
      holds [] here ∧ Each (fun past => holds (here :: past)) rest := by
  constructor
  · intro each
    refine ⟨each [] here rest rfl, fun early other late split => ?_⟩
    exact each (here :: early) other late (by rw [split]; rfl)
  · intro each early other late split
    cases early with
    | nil =>
        cases split
        exact each.1
    | cons head early =>
        cases split
        exact each.2 early other late rfl

instance decidableEach : {relates : List Seen → Seen → Prop} →
    [∀ past here, Decidable (relates past here)] →
    (seen : List Seen) → Decidable (Each relates seen)
  | _, _, [] => .isTrue each_nil
  | relates, decides, here :: rest =>
      have := @decidableEach (fun past => relates (here :: past))
        (fun past => decides (here :: past)) rest
      decidable_of_iff
        (relates [] here ∧ Each (fun past => relates (here :: past)) rest)
        each_cons.symm

theorem Each.mono {weaker : List Seen → Seen → Prop} {seen : List Seen}
    (each : Each holds seen)
    (weaken : ∀ past here, holds past here → weaker past here) :
    Each weaker seen :=
  fun early here late split => weaken early here (each early here late split)

/-- What must hold once a mark has been seen holds of all that follows it. -/
theorem Each.after {marks then_ : Seen → Prop} {seen : List Seen}
    (each : Each (fun past here => (∃ mark ∈ past, marks mark) → then_ here)
      seen)
    {early late : List Seen} {mark : Seen} (split : seen = early ++ mark :: late)
    (marked : marks mark) : ∀ other ∈ late, then_ other := by
  intro other member
  obtain ⟨front, back, rfl⟩ := List.append_of_mem member
  exact each (early ++ mark :: front) other back (by simp [split])
    ⟨mark, by simp, marked⟩

end Each

section Since

variable {raises keeps : Seen → Prop}

/-- Something raised the condition, and everything after it has kept it. -/
def Since (raises keeps : Seen → Prop) (seen : List Seen) : Prop :=
  ∃ early here late, seen = early ++ here :: late ∧ raises here ∧
    ∀ other ∈ late, keeps other

theorem not_since_nil : ¬ Since raises keeps [] := by
  intro since
  obtain ⟨early, here, late, split, _⟩ := since
  simp at split

theorem since_append {seen out : List Seen} :
    Since raises keeps (seen ++ out) ↔
      Since raises keeps out ∨
        Since raises keeps seen ∧ ∀ other ∈ out, keeps other := by
  constructor
  · intro since
    obtain ⟨early, here, late, split, raised, kept⟩ := since
    rcases split_append split with ⟨rest, rfl, rfl⟩ | ⟨front, rfl, rfl⟩
    · refine .inr ⟨⟨early, here, rest, rfl, raised, ?_⟩, ?_⟩
      · exact fun other member => kept other (List.mem_append_left _ member)
      · exact fun other member => kept other (List.mem_append_right _ member)
    · exact .inl ⟨front, here, late, rfl, raised, kept⟩
  · intro since
    rcases since with ⟨early, here, late, rfl, raised, kept⟩ |
      ⟨⟨early, here, late, rfl, raised, kept⟩, after⟩
    · exact ⟨seen ++ early, here, late, (List.append_assoc ..).symm, raised,
        kept⟩
    · refine ⟨early, here, late ++ out, by simp, raised, fun other member => ?_⟩
      rcases List.mem_append.mp member with member | member
      · exact kept other member
      · exact after other member

theorem since_singleton {here : Seen} :
    Since raises keeps [here] ↔ raises here := by
  constructor
  · intro since
    obtain ⟨early, other, late, split, raised, _⟩ := since
    cases early with
    | nil =>
        cases split
        exact raised
    | cons head rest => simp at split
  · exact fun raised => ⟨[], here, [], rfl, raised, by simp⟩

theorem since_cons {here : Seen} {rest : List Seen} :
    Since raises keeps (here :: rest) ↔
      Since raises keeps rest ∨ raises here ∧ ∀ other ∈ rest, keeps other := by
  rw [← List.singleton_append, since_append, since_singleton]

instance decidableSince [DecidablePred raises] [DecidablePred keeps] :
    (seen : List Seen) → Decidable (Since raises keeps seen)
  | [] => .isFalse not_since_nil
  | here :: rest =>
      have := decidableSince rest
      decidable_of_iff
        (Since raises keeps rest ∨ raises here ∧ ∀ other ∈ rest, keeps other)
        since_cons.symm

end Since

section Stands

variable {raises : Seen → Prop} {holds : List Seen → Prop}

/-- Something raised the condition, and `holds` has been true of the sequence
ever since, from that entry on. -/
def Stands (raises : Seen → Prop) (holds : List Seen → Prop)
    (seen : List Seen) : Prop :=
  ∃ early here late, seen = early ++ here :: late ∧ raises here ∧
    ∀ front, front <+: late → holds (early ++ here :: front)

theorem not_stands_nil : ¬ Stands raises holds [] := by
  intro stands
  obtain ⟨early, here, late, split, _⟩ := stands
  simp at split

theorem Stands.now {seen : List Seen} (stands : Stands raises holds seen) :
    holds seen := by
  obtain ⟨early, here, late, rfl, _, kept⟩ := stands
  exact kept late (List.prefix_refl _)

theorem stands_snoc {seen : List Seen} {here : Seen} :
    Stands raises holds (seen ++ [here]) ↔
      holds (seen ++ [here]) ∧ (raises here ∨ Stands raises holds seen) := by
  constructor
  · intro stands
    refine ⟨stands.now, ?_⟩
    obtain ⟨early, first, late, split, raised, kept⟩ := stands
    rcases split_append split with ⟨rest, rfl, rfl⟩ | ⟨front, rfl, last⟩
    · refine .inr ⟨early, first, rest, rfl, raised, fun front within => ?_⟩
      exact kept front (within.trans (List.prefix_append _ _))
    · cases front with
      | nil =>
          cases last
          exact .inl raised
      | cons head front => simp at last
  · intro ends
    obtain ⟨now, raised | ⟨early, first, late, rfl, raised, kept⟩⟩ := ends
    · refine ⟨seen, here, [], rfl, raised, fun front within => ?_⟩
      rw [List.prefix_nil.mp within]
      exact now
    · refine ⟨early, first, late ++ [here], by simp, raised,
        fun front within => ?_⟩
      rcases List.prefix_concat_iff.mp within with rfl | within
      · simpa using now
      · exact kept front within

end Stands

section Latest

variable {pick : Seen → Option Value}

/-- The last value that an observation picks. -/
def latest (pick : Seen → Option Value) (seen : List Seen) : Option Value :=
  (seen.filterMap pick).getLast?

@[simp] theorem latest_nil : latest pick [] = none :=
  rfl

@[simp] theorem latest_singleton (here : Seen) :
    latest pick [here] = pick here := by
  cases picked : pick here <;> simp [latest, picked]

theorem latest_append (seen out : List Seen) :
    latest pick (seen ++ out) = (latest pick out).or (latest pick seen) := by
  simp [latest, List.getLast?_append]

theorem latest_append_none {seen out : List Seen}
    (silent : ∀ other ∈ out, pick other = none) :
    latest pick (seen ++ out) = latest pick seen := by
  have nothing : out.filterMap pick = [] :=
    List.filterMap_eq_nil_iff.mpr silent
  simp [latest, nothing]

theorem latest_split {seen : List Seen} {value : Value}
    (found : latest pick seen = some value) :
    ∃ early here late, seen = early ++ here :: late ∧
      pick here = some value ∧ late.filterMap pick = [] := by
  obtain ⟨front, split⟩ := List.getLast?_eq_some_iff.mp found
  obtain ⟨early, tail, rfl, _, picked⟩ :=
    List.filterMap_eq_append_iff.mp split
  obtain ⟨between, here, late, rfl, silent, picked, nothing⟩ :=
    List.filterMap_eq_cons_iff.mp picked
  exact ⟨early ++ between, here, late, by simp, picked, nothing⟩

end Latest

end Trace

end Bowerbird.Foundation
