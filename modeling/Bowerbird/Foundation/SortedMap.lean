import Mathlib.Order.Lattice
import Mathlib.Data.List.Basic
import Mathlib.Tactic.Common

namespace Bowerbird.Foundation

/-! Maps as lists of entries in strictly ascending order of their keys.  Such a
list is determined by what can be looked up in it. -/

namespace SortedMap

variable {Key Value : Type} [LinearOrder Key]

def lookup (wanted : Key) (entries : List (Key × Value)) : Option Value :=
  (entries.find? fun entry => entry.1 = wanted).map Prod.snd

/-- A key that is there takes the new value. -/
def insert (key : Key) (value : Value) :
    List (Key × Value) → List (Key × Value)
  | [] => [(key, value)]
  | entry :: rest =>
      if key = entry.1 then (key, value) :: rest
      else if key < entry.1 then (key, value) :: entry :: rest
      else entry :: insert key value rest

def Sorted (entries : List (Key × Value)) : Prop :=
  entries.Pairwise fun first second => first.1 < second.1

variable {key wanted : Key} {value : Value}
variable {entry : Key × Value} {entries others rest : List (Key × Value)}

@[simp] theorem lookup_nil : lookup wanted ([] : List (Key × Value)) = none :=
  rfl

theorem lookup_cons :
    lookup wanted (entry :: rest) =
      if entry.1 = wanted then some entry.2 else lookup wanted rest := by
  by_cases same : entry.1 = wanted <;> simp [lookup, same]

theorem lookup_mem (found : lookup wanted entries = some value) :
    (wanted, value) ∈ entries := by
  induction entries with
  | nil => cases found
  | cons entry rest induction =>
      rw [lookup_cons] at found
      split at found
      · rename_i same
        cases found
        subst same
        exact List.mem_cons_self
      · exact List.mem_cons_of_mem _ (induction found)

theorem mem_insert (member : entry ∈ insert key value entries) :
    entry = (key, value) ∨ entry ∈ entries := by
  induction entries with
  | nil => exact .inl (List.mem_singleton.mp member)
  | cons head rest induction =>
      unfold insert at member
      split at member
      · rcases List.mem_cons.mp member with own | member
        · exact .inl own
        · exact .inr (List.mem_cons_of_mem _ member)
      · split at member
        · exact List.mem_cons.mp member
        · rcases List.mem_cons.mp member with rfl | member
          · exact .inr List.mem_cons_self
          · exact (induction member).imp_right (List.mem_cons_of_mem _)

theorem lookup_insert (key : Key) (value : Value)
    (entries : List (Key × Value)) (wanted : Key) :
    lookup wanted (insert key value entries) =
      if key = wanted then some value else lookup wanted entries := by
  induction entries with
  | nil => exact lookup_cons
  | cons head rest induction =>
      unfold insert
      split
      · rename_i same
        rw [lookup_cons, lookup_cons, ← same]
        split <;> rfl
      · rename_i other
        split
        · exact lookup_cons
        · rw [lookup_cons, lookup_cons, induction]
          by_cases here : head.1 = wanted
          · rw [if_pos here, if_pos here, if_neg fun own => other (own.trans here.symm)]
          · rw [if_neg here, if_neg here]

theorem Sorted.insert (sorted : Sorted entries) (key : Key) (value : Value) :
    Sorted (insert key value entries) := by
  induction entries with
  | nil => exact List.pairwise_singleton _ _
  | cons head rest induction =>
      obtain ⟨least, sorted⟩ := List.pairwise_cons.mp sorted
      unfold SortedMap.insert
      split
      · rename_i same
        subst same
        exact List.pairwise_cons.mpr ⟨least, sorted⟩
      · rename_i other
        split
        · rename_i below
          refine List.pairwise_cons.mpr ⟨fun entry member => ?_,
            List.pairwise_cons.mpr ⟨least, sorted⟩⟩
          rcases List.mem_cons.mp member with rfl | member
          · exact below
          · exact below.trans (least entry member)
        · rename_i above
          refine List.pairwise_cons.mpr ⟨fun entry member => ?_,
            induction sorted⟩
          rcases mem_insert member with rfl | member
          · exact lt_of_le_of_ne (not_lt.mp above) (Ne.symm other)
          · exact least entry member

theorem lookup_of_sorted_cons (sorted : Sorted (entry :: rest)) :
    lookup entry.1 rest = none := by
  cases found : lookup entry.1 rest with
  | none => rfl
  | some value =>
      have above := (List.pairwise_cons.mp sorted).1 _ (lookup_mem found)
      exact absurd above (lt_irrefl _)

theorem Sorted.ext (first : Sorted entries) (second : Sorted others)
    (same : ∀ key, lookup key entries = lookup key others) :
    entries = others := by
  induction entries generalizing others with
  | nil =>
      cases others with
      | nil => rfl
      | cons head rest =>
          have absent := same head.1
          rw [lookup_cons, if_pos rfl] at absent
          cases absent
  | cons entry rest induction =>
      cases others with
      | nil =>
          have absent := same entry.1
          rw [lookup_cons, if_pos rfl] at absent
          cases absent
      | cons head tail =>
          have keys : entry.1 = head.1 := by
            by_contra other
            have here := same entry.1
            have there := same head.1
            rw [lookup_cons, lookup_cons, if_pos rfl,
              if_neg (Ne.symm other)] at here
            rw [lookup_cons, lookup_cons, if_neg other, if_pos rfl] at there
            have above := (List.pairwise_cons.mp second).1 _
              (lookup_mem here.symm)
            have below := (List.pairwise_cons.mp first).1 _ (lookup_mem there)
            exact absurd above (lt_asymm below)
          have values := same entry.1
          rw [lookup_cons, lookup_cons, if_pos rfl, if_pos keys.symm,
            Option.some.injEq] at values
          have heads : entry = head := Prod.ext keys values
          subst heads
          congr 1
          refine induction first.of_cons second.of_cons fun key => ?_
          by_cases own : entry.1 = key
          · subst own
            rw [lookup_of_sorted_cons first, lookup_of_sorted_cons second]
          · have others := same key
            rwa [lookup_cons, lookup_cons, if_neg own, if_neg own] at others

/-- To put in what is there changes nothing. -/
theorem Sorted.insert_lookup (sorted : Sorted entries)
    (found : lookup key entries = some value) :
    SortedMap.insert key value entries = entries := by
  refine (sorted.insert key value).ext sorted fun wanted => ?_
  rw [lookup_insert]
  split
  · rename_i own
    rw [← own, found]
  · rfl

end SortedMap

end Bowerbird.Foundation
