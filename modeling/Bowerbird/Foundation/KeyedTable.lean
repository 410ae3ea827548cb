import Mathlib.Data.List.Basic
import Mathlib.Data.List.Nodup

namespace Bowerbird.Foundation

/-! Tables with a primary key, as lists of rows. -/

namespace KeyedTable

variable {Row Key : Type} [DecidableEq Key] (key : Row → Key)

def lookup (wanted : Key) (rows : List Row) : Option Row :=
  rows.find? fun row => key row = wanted

/-- Insert a row, or put it in the place of the row with its key. -/
def upsert (row : Row) : List Row → List Row
  | [] => [row]
  | head :: rest =>
      if key head = key row then row :: rest else head :: upsert row rest

/-- Put every new row in its place, in their order. -/
def merge (rows updates : List Row) : List Row :=
  updates.foldl (fun rows row => upsert key row rows) rows

def Keyed (rows : List Row) : Prop :=
  (rows.map key).Nodup

variable {key} {wanted : Key} {row : Row} {rows : List Row}

theorem lookup_key (found : lookup key wanted rows = some row) :
    key row = wanted := by
  simpa using List.find?_some found

theorem lookup_mem (found : lookup key wanted rows = some row) : row ∈ rows :=
  List.mem_of_find?_eq_some found

theorem lookup_eq_none :
    lookup key wanted rows = none ↔ ∀ row ∈ rows, key row ≠ wanted := by
  simp [lookup]

theorem lookup_of_mem (keyed : Keyed key rows) (member : row ∈ rows) :
    lookup key (key row) rows = some row := by
  induction rows with
  | nil => simp at member
  | cons head rest induction =>
      simp only [Keyed, List.map_cons, List.nodup_cons] at keyed
      rcases List.mem_cons.mp member with rfl | member
      · simp [lookup]
      · have distinct : key head ≠ key row := fun same =>
          keyed.1 (same ▸ List.mem_map_of_mem member)
        rw [lookup, List.find?_cons_of_neg (by simpa using distinct)]
        exact induction keyed.2 member

variable (key) in
@[simp] theorem lookup_upsert_self (row : Row) (rows : List Row) :
    lookup key (key row) (upsert key row rows) = some row := by
  induction rows with
  | nil => simp [upsert, lookup]
  | cons head rest induction =>
      by_cases same : key head = key row
      · simp [upsert, same, lookup]
      · simp only [upsert, same, if_false]
        rw [lookup, List.find?_cons_of_neg (by simpa using same)]
        exact induction

theorem lookup_upsert_ne (distinct : key row ≠ wanted) (rows : List Row) :
    lookup key wanted (upsert key row rows) = lookup key wanted rows := by
  induction rows with
  | nil => simp [upsert, lookup, distinct]
  | cons head rest induction =>
      by_cases same : key head = key row
      · have other : key head ≠ wanted := same ▸ distinct
        simp [upsert, same, lookup, distinct]
      · simp only [upsert, same, if_false]
        by_cases here : key head = wanted
        · simp [lookup, here]
        · simp only [lookup] at induction ⊢
          rw [List.find?_cons_of_neg (by simpa using here), induction,
            List.find?_cons_of_neg (by simpa using here)]

theorem mem_upsert {other : Row} (member : other ∈ upsert key row rows) :
    other = row ∨ other ∈ rows := by
  induction rows with
  | nil => simpa [upsert] using member
  | cons head rest induction =>
      by_cases same : key head = key row
      · simp only [upsert, same, if_true, List.mem_cons] at member
        rcases member with rfl | member
        · exact .inl rfl
        · exact .inr (List.mem_cons_of_mem _ member)
      · simp only [upsert, same, if_false, List.mem_cons] at member
        rcases member with rfl | member
        · exact .inr (by simp)
        · exact (induction member).imp_right (List.mem_cons_of_mem _)

theorem Keyed.upsert (keyed : Keyed key rows) (row : Row) :
    Keyed key (upsert key row rows) := by
  induction rows with
  | nil => simp [KeyedTable.upsert, Keyed]
  | cons head rest induction =>
      simp only [Keyed, List.map_cons, List.nodup_cons] at keyed
      by_cases same : key head = key row
      · simp only [KeyedTable.upsert, same, if_true, Keyed, List.map_cons,
          List.nodup_cons]
        exact ⟨same ▸ keyed.1, keyed.2⟩
      · simp only [KeyedTable.upsert, same, if_false, Keyed, List.map_cons,
          List.nodup_cons]
        refine ⟨fun member => ?_, induction keyed.2⟩
        obtain ⟨other, member, equality⟩ := List.mem_map.mp member
        rcases mem_upsert member with rfl | member
        · exact same equality.symm
        · exact keyed.1 (equality ▸ List.mem_map_of_mem member)

/-- A merged table has the new rows, and the old ones of the other keys. -/
theorem lookup_merge {updates : List Row} (keyed : Keyed key updates) :
    lookup key wanted (merge key rows updates) =
      (lookup key wanted updates).or (lookup key wanted rows) := by
  induction updates generalizing rows with
  | nil => rfl
  | cons head rest induction =>
      obtain ⟨fresh, keyed⟩ := List.nodup_cons.mp keyed
      rw [merge, List.foldl_cons, ← merge, induction keyed]
      by_cases own : key head = wanted
      · have absent : lookup key wanted rest = none := by
          refine lookup_eq_none.mpr fun other member same => fresh ?_
          rw [own, ← same]
          exact List.mem_map_of_mem member
        subst own
        rw [absent, lookup_upsert_self]
        simp [lookup]
      · rw [lookup_upsert_ne own]
        simp [lookup, own]

omit [DecidableEq Key] in
theorem Keyed.filter (keyed : Keyed key rows) (keep : Row → Bool) :
    Keyed key (rows.filter keep) :=
  (List.Sublist.map key List.filter_sublist).nodup keyed

omit [DecidableEq Key] in
theorem Keyed.perm {others : List Row} (keyed : Keyed key rows)
    (perm : rows.Perm others) : Keyed key others :=
  (perm.map key).nodup_iff.mp keyed

omit [DecidableEq Key] in
/-- What is made of some of the rows, each under the key of its row. -/
theorem Keyed.filterMap {Made : Type} {own : Made → Key}
    (keyed : Keyed key rows) (pick : Row → Option Made)
    (keeps : ∀ row made, pick row = some made → own made = key row) :
    Keyed own (rows.filterMap pick) := by
  have within : ((rows.filterMap pick).map own).Sublist (rows.map key) := by
    clear keyed
    induction rows with
    | nil => exact List.Sublist.refl _
    | cons head rest induction =>
        cases picked : pick head with
        | none =>
            rw [List.filterMap_cons_none picked]
            exact induction.cons _
        | some made =>
            rw [List.filterMap_cons_some picked, List.map_cons, List.map_cons,
              keeps head made picked]
            exact induction.cons_cons _
  exact within.nodup keyed

/-- Deleting rows leaves the row of a key or nothing. -/
theorem lookup_filter (keyed : Keyed key rows) (keep : Row → Bool)
    (wanted : Key) :
    lookup key wanted (rows.filter keep) =
      (lookup key wanted rows).filter keep := by
  cases found : lookup key wanted rows with
  | none =>
      rw [lookup_eq_none] at found
      simp only [Option.filter_none]
      exact lookup_eq_none.mpr fun row member =>
        found row (List.mem_filter.mp member).1
  | some row =>
      have named := lookup_key found
      have member := lookup_mem found
      by_cases kept : keep row = true
      · have stays : row ∈ rows.filter keep := by simp [member, kept]
        simp only [Option.filter, kept, if_true]
        rw [← named]
        exact lookup_of_mem (keyed.filter keep) stays
      · simp only [Option.filter, kept]
        refine lookup_eq_none.mpr fun other otherMember same => kept ?_
        obtain ⟨otherMember, otherKept⟩ := List.mem_filter.mp otherMember
        have again := lookup_of_mem keyed otherMember
        rw [same, found] at again
        cases again
        exact otherKept

end KeyedTable

end Bowerbird.Foundation
