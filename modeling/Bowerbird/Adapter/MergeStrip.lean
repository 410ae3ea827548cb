import Bowerbird.Adapter.Settings
import Bowerbird.Foundation.SortedMap
import Mathlib.Data.List.Forall2
import Mathlib.Data.String.Basic

namespace Bowerbird.Adapter.Settings

open Protocol Foundation

/-! What install adds to a settings document, what uninstall takes out of it, and
what both leave alone. -/

/-- What a JSON object is when it has been read: its keys ascend, all the way
down. -/
inductive Canonical : Json.Value → Prop
  | null : Canonical .null
  | bool (value : Bool) : Canonical (.bool value)
  | number (value : Json.Number) : Canonical (.number value)
  | string (value : String) : Canonical (.string value)
  | array {values : List Json.Value}
      (each : ∀ value ∈ values, Canonical value) : Canonical (.array values)
  | object {fields : List (String × Json.Value)}
      (sorted : SortedMap.Sorted fields)
      (each : ∀ entry ∈ fields, Canonical entry.2) : Canonical (.object fields)

def hooksOf (fields : List (String × Json.Value)) :
    List (String × Json.Value) :=
  match field "hooks" fields with
  | some (.object hooks) => hooks
  | _ => []

def holdsBowerbird (fields : List (String × Json.Value)) (kind : String) :
    Bool :=
  hasKind (hooksOf fields) kind

/-- What is there is of the shape that install and uninstall expect. -/
structure WellShaped (fields : List (String × Json.Value)) : Prop where
  hooks : ∀ value, field "hooks" fields = some value →
    ∃ hooks, value = .object hooks
  kinds : ∀ kind ∈ hookKinds, ∀ value,
    field kind (hooksOf fields) = some value → ∃ array, value = .array array

def groupHooks : Json.Value → List Json.Value
  | .object fields =>
      match field "hooks" fields with
      | some (.array hooks) => hooks
      | _ => []
  | _ => []

/-- The hooks of an array that are not bowerbird's, in order. -/
def foreignHooks (array : List Json.Value) : List Json.Value :=
  array.flatMap fun group => (groupHooks group).filter (!isBowerbirdCommandHook ·)

/-- A group before and after: its hooks without bowerbird's, all else the same. -/
inductive Stripped : Json.Value → Json.Value → Prop
  | hooks {before after : List (String × Json.Value)} {inner : List Json.Value}
      (found : field "hooks" before = some (.array inner))
      (kept : field "hooks" after =
        some (.array (inner.filter (!isBowerbirdCommandHook ·))))
      (others : ∀ key, key ≠ "hooks" → field key after = field key before) :
      Stripped (.object before) (.object after)
  | other {group : Json.Value}
      (bare : ∀ fields inner, group = .object fields →
        field "hooks" fields ≠ some (.array inner)) : Stripped group group

/-- Outside the arrays of the hook kinds nothing is different. -/
structure Elsewhere (before after : List (String × Json.Value)) : Prop where
  root : ∀ key, key ≠ "hooks" → field key after = field key before
  hooks : ∀ key, key ∉ hookKinds →
    field key (hooksOf after) = field key (hooksOf before)

structure MergeKeeps (before after : List (String × Json.Value)) : Prop
    extends Elsewhere before after where
  arrays : ∀ kind ∈ hookKinds, field kind (hooksOf after) =
    some (.array (kindArray kind (hooksOf before) ++
      if holdsBowerbird before kind then [] else [bowerbirdHookGroup kind]))
  foreign : ∀ kind ∈ hookKinds,
    foreignHooks (kindArray kind (hooksOf after)) =
      foreignHooks (kindArray kind (hooksOf before))

structure StripKeeps (before after : List (String × Json.Value)) : Prop
    extends Elsewhere before after where
  bare : (∀ hooks, field "hooks" before ≠ some (.object hooks)) → after = before
  object : ∀ hooks, field "hooks" before = some (.object hooks) →
    ∃ kept, field "hooks" after = some (.object kept)
  missing : ∀ kind ∈ hookKinds, field kind (hooksOf before) = none →
    field kind (hooksOf after) = none
  arrays : ∀ kind ∈ hookKinds, ∀ array,
    field kind (hooksOf before) = some (.array array) →
    ∃ kept, field kind (hooksOf after) = some (.array kept) ∧
      List.Forall₂ Stripped (array.filter (!groupIsBowerbirdOnly ·)) kept ∧
      foreignHooks kept = foreignHooks array

/-- The document with what install leaves behind: a `hooks` object that has an
array for every kind. -/
def padKinds (hooks : List (String × Json.Value)) :
    List String → List (String × Json.Value)
  | [] => hooks
  | kind :: rest =>
      match field kind hooks with
      | some _ => padKinds hooks rest
      | none => padKinds (Json.insertField kind (.array []) hooks) rest

def padded (fields : List (String × Json.Value)) :
    List (String × Json.Value) :=
  Json.insertField "hooks" (.object (padKinds (hooksOf fields) hookKinds)) fields

structure EditsOnlyItsOwn (fields : List (String × Json.Value)) : Prop where
  idempotent : mergeInstallInto (mergeInstallInto fields).1 =
    ((mergeInstallInto fields).1, [])
  added : (mergeInstallInto fields).2 =
    hookKinds.filter (!holdsBowerbird fields ·)
  clean : ∀ kind ∈ hookKinds,
    holdsBowerbird (stripInstallFrom fields).1 kind = false
  /-- The kinds that are reported are those whose entry has changed. -/
  removed : ∀ kind, kind ∈ (stripInstallFrom fields).2 ↔ kind ∈ hookKinds ∧
    field kind (hooksOf (stripInstallFrom fields).1) ≠
      field kind (hooksOf fields)
  once : (stripInstallFrom fields).2.Nodup
  merge : WellShaped fields → MergeKeeps fields (mergeInstallInto fields).1
  strip : StripKeeps fields (stripInstallFrom fields).1
  undone : WellShaped fields →
    (∀ kind ∈ hookKinds, holdsBowerbird fields kind = false) →
    (stripInstallFrom (mergeInstallInto fields).1).1 = padded fields

/-! Objects as maps. -/

section Objects

variable {fields others hooks : List (String × Json.Value)}
variable {key : String} {value : Json.Value}

theorem field_eq (key : String) (fields : List (String × Json.Value)) :
    field key fields = SortedMap.lookup key fields := by
  unfold field Json.Value.get SortedMap.lookup
  congr 2

theorem insertField_eq (key : String) (value : Json.Value)
    (fields : List (String × Json.Value)) :
    Json.insertField key value fields = SortedMap.insert key value fields := by
  induction fields with
  | nil => rfl
  | cons head rest induction =>
      rw [Json.insertField, SortedMap.insert, induction]

theorem field_insertField (key : String) (value : Json.Value)
    (fields : List (String × Json.Value)) (wanted : String) :
    field wanted (Json.insertField key value fields) =
      if key = wanted then some value else field wanted fields := by
  rw [field_eq, field_eq, insertField_eq]
  exact SortedMap.lookup_insert key value fields wanted

theorem field_insertField_self :
    field key (Json.insertField key value fields) = some value :=
  (field_insertField key value fields key).trans (if_pos rfl)

theorem field_insertField_ne {wanted : String} (distinct : key ≠ wanted) :
    field wanted (Json.insertField key value fields) = field wanted fields :=
  (field_insertField key value fields wanted).trans (if_neg distinct)

theorem sorted_ext (first : SortedMap.Sorted fields)
    (second : SortedMap.Sorted others)
    (same : ∀ key, field key fields = field key others) : fields = others := by
  refine first.ext second fun key => ?_
  rw [← field_eq, ← field_eq, same]

theorem sorted_insertField (sorted : SortedMap.Sorted fields) (key : String)
    (value : Json.Value) : SortedMap.Sorted (Json.insertField key value fields) := by
  rw [insertField_eq]
  exact sorted.insert key value

theorem insertField_found (sorted : SortedMap.Sorted fields)
    (found : field key fields = some value) :
    Json.insertField key value fields = fields := by
  rw [insertField_eq]
  rw [field_eq] at found
  exact sorted.insert_lookup found

theorem Canonical.sorted (canonical : Canonical (.object fields)) :
    SortedMap.Sorted fields := by
  cases canonical with
  | object sorted each => exact sorted

theorem Canonical.field (canonical : Canonical (.object fields))
    (found : field key fields = some value) : Canonical value := by
  rw [field_eq] at found
  cases canonical with
  | object sorted each => exact each _ (SortedMap.lookup_mem found)

theorem Canonical.hooksOf (canonical : Canonical (.object fields)) :
    Canonical (.object (hooksOf fields)) := by
  unfold Settings.hooksOf
  split
  · rename_i found
    exact canonical.field found
  · exact .object List.Pairwise.nil nofun

theorem Canonical.mem {values : List Json.Value}
    (canonical : Canonical (.array values)) (member : value ∈ values) :
    Canonical value := by
  cases canonical with
  | array each => exact each value member

theorem hooksOf_insertField :
    hooksOf (Json.insertField "hooks" (.object hooks) fields) = hooks := by
  rw [hooksOf, field_insertField_self]

theorem kindArray_found {array : List Json.Value}
    (found : field key hooks = some (.array array)) :
    kindArray key hooks = array := by
  rw [kindArray, found]

theorem kindArray_congr (same : field key others = field key hooks) :
    kindArray key others = kindArray key hooks := by
  rw [kindArray, kindArray, same]

theorem hasKind_congr (same : field key others = field key hooks) :
    hasKind others key = hasKind hooks key := by
  rw [hasKind, hasKind, kindArray_congr same]

end Objects

/-! A merge. -/

section Merge

variable {fields hooks : List (String × Json.Value)} {kinds : List String}
variable {kind key : String}

theorem bowerbird_only_of_own (member : kind ∈ hookKinds) :
    groupIsBowerbirdOnly (bowerbirdHookGroup kind) = true := by
  revert kind
  decide +kernel

theorem groupContains_of_only {group : Json.Value}
    (only : groupIsBowerbirdOnly group = true) :
    groupContainsBowerbird group = true := by
  unfold groupIsBowerbirdOnly at only
  unfold groupContainsBowerbird
  split at only
  · split at only
    · rename_i hooks found
      rw [Bool.and_eq_true, Bool.not_eq_true', List.all_eq_true] at only
      obtain ⟨nonempty, every⟩ := only
      cases hooks with
      | nil => cases nonempty
      | cons hook rest =>
          exact List.any_eq_true.mpr
            ⟨hook, List.mem_cons_self, every hook List.mem_cons_self⟩
    · cases only
  · cases only

theorem mergeKinds_added (distinct : kinds.Nodup) :
    (mergeKinds hooks kinds).2 = kinds.filter (!hasKind hooks ·) := by
  induction kinds generalizing hooks with
  | nil => rfl
  | cons kind rest induction =>
      obtain ⟨absent, distinct⟩ := List.nodup_cons.mp distinct
      unfold mergeKinds
      cases held : hasKind hooks kind with
      | true =>
          rw [List.filter_cons_of_neg (by rw [held]; exact Bool.false_ne_true)]
          exact (congrArg Prod.snd (if_pos held)).trans (induction distinct)
      | false =>
          rw [List.filter_cons_of_pos (by rw [held]; rfl)]
          refine (congrArg Prod.snd (if_neg (ne_true_of_eq_false held))).trans ?_
          refine congrArg (List.cons kind) ((induction distinct).trans ?_)
          refine List.filter_congr fun other member => ?_
          have different : kind ≠ other := fun same => absent (same ▸ member)
          rw [hasKind_congr (field_insertField_ne different)]

theorem mergeKinds_field (distinct : kinds.Nodup) :
    field key (mergeKinds hooks kinds).1 =
      if key ∈ kinds ∧ hasKind hooks key = false then
        some (.array (kindArray key hooks ++ [bowerbirdHookGroup key]))
      else field key hooks := by
  induction kinds generalizing hooks with
  | nil => exact (if_neg fun member => nomatch member.1).symm
  | cons kind rest induction =>
      obtain ⟨absent, distinct⟩ := List.nodup_cons.mp distinct
      unfold mergeKinds
      cases held : hasKind hooks kind with
      | true =>
          refine (congrArg (field key) (congrArg Prod.fst (if_pos held))).trans ?_
          refine (induction distinct).trans (if_congr ?_ rfl rfl)
          refine and_congr_left fun free =>
            ⟨List.mem_cons_of_mem kind, fun member => ?_⟩
          rcases List.mem_cons.mp member with rfl | member
          · rw [held] at free
            cases free
          · exact member
      | false =>
          refine (congrArg (field key)
            (congrArg Prod.fst (if_neg (ne_true_of_eq_false held)))).trans ?_
          refine (induction distinct).trans ?_
          by_cases own : kind = key
          · subst own
            rw [if_neg fun member => absent member.1, field_insertField_self,
              if_pos ⟨List.mem_cons_self, held⟩]
          · have same : field key (Json.insertField kind (.array
                (kindArray kind hooks ++ [bowerbirdHookGroup kind])) hooks) =
                field key hooks := field_insertField_ne own
            rw [same, hasKind_congr same, kindArray_congr same]
            refine if_congr (and_congr_left' ?_) rfl rfl
            rw [List.mem_cons, or_iff_right fun equal => own equal.symm]

theorem mergeKinds_sorted (sorted : SortedMap.Sorted hooks)
    (kinds : List String) : SortedMap.Sorted (mergeKinds hooks kinds).1 := by
  induction kinds generalizing hooks with
  | nil => exact sorted
  | cons kind rest induction =>
      unfold mergeKinds
      dsimp only
      split
      · exact induction sorted
      · exact induction (sorted_insertField sorted _ _)

theorem mergeKinds_held (held : ∀ kind ∈ kinds, hasKind hooks kind = true) :
    mergeKinds hooks kinds = (hooks, []) := by
  induction kinds with
  | nil => rfl
  | cons kind rest induction =>
      unfold mergeKinds
      exact (if_pos (held kind List.mem_cons_self)).trans
        (induction fun kind member => held kind (List.mem_cons_of_mem _ member))

variable (fields) in
theorem mergeInstallInto_eq :
    mergeInstallInto fields =
      (Json.insertField "hooks" (.object (mergeKinds (hooksOf fields) hookKinds).1)
        fields, (mergeKinds (hooksOf fields) hookKinds).2) :=
  rfl

theorem hookKinds_nodup : hookKinds.Nodup := by
  decide

theorem hooksOf_merged :
    hooksOf (mergeInstallInto fields).1 =
      (mergeKinds (hooksOf fields) hookKinds).1 :=
  hooksOf_insertField

theorem merged_field :
    field key (hooksOf (mergeInstallInto fields).1) =
      if key ∈ hookKinds ∧ holdsBowerbird fields key = false then
        some (.array (kindArray key (hooksOf fields) ++ [bowerbirdHookGroup key]))
      else field key (hooksOf fields) := by
  rw [hooksOf_merged]
  exact mergeKinds_field hookKinds_nodup

theorem merged_same (held : holdsBowerbird fields kind = true) :
    field kind (hooksOf (mergeInstallInto fields).1) =
      field kind (hooksOf fields) := by
  refine merged_field.trans (if_neg fun free => ?_)
  rw [held] at free
  cases free.2

theorem merged_grown (member : kind ∈ hookKinds)
    (free : holdsBowerbird fields kind = false) :
    field kind (hooksOf (mergeInstallInto fields).1) =
      some (.array (kindArray kind (hooksOf fields) ++ [bowerbirdHookGroup kind])) :=
  merged_field.trans (if_pos ⟨member, free⟩)

theorem merged_holds (member : kind ∈ hookKinds) :
    holdsBowerbird (mergeInstallInto fields).1 kind = true := by
  cases held : holdsBowerbird fields kind with
  | true => exact (hasKind_congr (merged_same held)).trans held
  | false =>
      unfold holdsBowerbird hasKind
      rw [kindArray_found (merged_grown member held)]
      refine List.any_eq_true.mpr ⟨_, List.mem_append_right _
        (List.mem_singleton_self _), ?_⟩
      exact groupContains_of_only (bowerbird_only_of_own member)

theorem merge_idempotent (canonical : Canonical (.object fields)) :
    mergeInstallInto (mergeInstallInto fields).1 =
      ((mergeInstallInto fields).1, []) := by
  rw [mergeInstallInto_eq (mergeInstallInto fields).1,
    mergeKinds_held fun kind member => merged_holds member, hooksOf_merged]
  refine congrArg (·, []) (insertField_found ?_ field_insertField_self)
  exact sorted_insertField canonical.sorted _ _

theorem foreign_append (first second : List Json.Value) :
    foreignHooks (first ++ second) = foreignHooks first ++ foreignHooks second :=
  List.flatMap_append

theorem foreign_own (member : kind ∈ hookKinds) :
    foreignHooks [bowerbirdHookGroup kind] = [] := by
  revert kind
  decide +kernel

theorem merge_keeps (shaped : WellShaped fields) :
    MergeKeeps fields (mergeInstallInto fields).1 where
  root := fun key other => field_insertField_ne (Ne.symm other)
  hooks := fun key free => merged_field.trans (if_neg fun own => free own.1)
  arrays := by
    intro kind member
    cases held : holdsBowerbird fields kind with
    | true =>
        obtain ⟨value, found⟩ : ∃ value, field kind (hooksOf fields) = some value := by
          cases found : field kind (hooksOf fields) with
          | some value => exact ⟨value, rfl⟩
          | none =>
              rw [holdsBowerbird, hasKind, kindArray, found] at held
              cases held
        obtain ⟨array, rfl⟩ := shaped.kinds kind member value found
        rw [merged_same held, found, if_pos rfl, kindArray_found found,
          List.append_nil]
    | false => rw [merged_grown member held, if_neg Bool.false_ne_true]
  foreign := by
    intro kind member
    cases held : holdsBowerbird fields kind with
    | true => rw [kindArray_congr (merged_same held)]
    | false =>
        rw [kindArray_found (merged_grown member held), foreign_append,
          foreign_own member, List.append_nil]

end Merge

/-! A strip, first of a group, then of the array of a kind, then of all. -/

section Strip

variable {fields hooks : List (String × Json.Value)} {kinds : List String}
variable {kind key : String} {group : Json.Value} {array : List Json.Value}

theorem stripGroup_flag (group : Json.Value) :
    (stripGroup group).2 = groupContainsBowerbird group := by
  cases group with
  | object fields =>
      unfold stripGroup groupContainsBowerbird
      dsimp only
      split
      · rename_i inner found
        rw [Bool.eq_iff_iff, decide_eq_true_iff, ne_eq,
          List.length_filter_eq_length_iff, List.any_eq_true]
        push Not
        exact exists_congr fun hook =>
          and_congr_right fun _ => by rw [ne_eq, Bool.not_eq_true', Bool.not_eq_false]
      · rfl
  | _ => rfl

theorem stripGroup_clean (group : Json.Value) :
    groupContainsBowerbird (stripGroup group).1 = false := by
  cases group with
  | object fields =>
      unfold stripGroup
      dsimp only
      split
      · rename_i inner found
        unfold groupContainsBowerbird
        dsimp only
        rw [field_insertField_self]
        refine List.any_eq_false.mpr fun hook member => ?_
        have foreign := (List.mem_filter.mp member).2
        rw [Bool.not_eq_true'] at foreign
        exact ne_true_of_eq_false foreign
      · rename_i bare
        unfold groupContainsBowerbird
        dsimp only
        split
        · rename_i inner found
          exact absurd found (bare inner)
        · rfl
  | _ => rfl

theorem stripGroup_none (canonical : Canonical group)
    (none : groupContainsBowerbird group = false) :
    (stripGroup group).1 = group := by
  cases group with
  | object fields =>
      unfold stripGroup
      dsimp only
      split
      · rename_i inner found
        unfold groupContainsBowerbird at none
        dsimp only at none
        rw [found] at none
        have all : inner.filter (!isBowerbirdCommandHook ·) = inner := by
          refine List.filter_eq_self.mpr fun hook member => ?_
          rw [Bool.not_eq_true']
          exact eq_false_of_ne_true (List.any_eq_false.mp none hook member)
        dsimp only
        rw [all, insertField_found canonical.sorted found]
      · rfl
  | _ => rfl

theorem stripGroup_stripped (group : Json.Value) :
    Stripped group (stripGroup group).1 := by
  cases group with
  | object fields =>
      unfold stripGroup
      dsimp only
      split
      · rename_i inner found
        exact .hooks found field_insertField_self
          fun key other => field_insertField_ne (Ne.symm other)
      · rename_i bare
        refine .other fun others inner same found => ?_
        cases same
        exact bare inner found
  | _ => exact .other nofun

theorem groupHooks_found {inner : List Json.Value}
    (found : field "hooks" fields = some (.array inner)) :
    groupHooks (.object fields) = inner := by
  rw [groupHooks, found]

theorem stripGroup_foreign (group : Json.Value) :
    (groupHooks (stripGroup group).1).filter (!isBowerbirdCommandHook ·) =
      (groupHooks group).filter (!isBowerbirdCommandHook ·) := by
  cases group with
  | object fields =>
      unfold stripGroup
      dsimp only
      split
      · rename_i inner found
        rw [groupHooks_found field_insertField_self, groupHooks_found found,
          List.filter_filter]
        simp only [Bool.and_self]
      · rfl
  | _ => rfl

theorem foreign_of_only (only : groupIsBowerbirdOnly group = true) :
    (groupHooks group).filter (!isBowerbirdCommandHook ·) = [] := by
  unfold groupIsBowerbirdOnly at only
  split at only
  · split at only
    · rename_i hooks found
      rw [Bool.and_eq_true, List.all_eq_true] at only
      rw [groupHooks_found found]
      refine List.filter_eq_nil_iff.mpr fun hook member => ?_
      rw [only.2 hook member]
      exact Bool.false_ne_true
    · cases only
  · cases only

/-- What a strip leaves of the array under a kind. -/
def stripArray (array : List Json.Value) : List Json.Value :=
  ((array.filter (!groupIsBowerbirdOnly ·)).map stripGroup).map (·.1)

theorem stripArray_clean (array : List Json.Value) :
    arrayContainsBowerbird (stripArray array) = false := by
  refine List.any_eq_false.mpr fun group member => ?_
  obtain ⟨pair, paired, rfl⟩ := List.mem_map.mp member
  obtain ⟨source, _, rfl⟩ := List.mem_map.mp paired
  exact ne_true_of_eq_false (stripGroup_clean source)

theorem stripArray_stripped (array : List Json.Value) :
    List.Forall₂ Stripped (array.filter (!groupIsBowerbirdOnly ·))
      (stripArray array) := by
  unfold stripArray
  rw [List.map_map, List.forall₂_map_right_iff, List.forall₂_same]
  exact fun group _ => stripGroup_stripped group

theorem stripArray_foreign (array : List Json.Value) :
    foreignHooks (stripArray array) = foreignHooks array := by
  unfold stripArray foreignHooks
  induction array with
  | nil => rfl
  | cons group rest induction =>
      rw [List.flatMap_cons, ← induction]
      cases only : groupIsBowerbirdOnly group with
      | true =>
          rw [List.filter_cons_of_neg (by rw [only]; exact Bool.false_ne_true),
            foreign_of_only only, List.nil_append]
      | false =>
          rw [List.filter_cons_of_pos (by rw [only]; rfl), List.map_cons,
            List.map_cons, List.flatMap_cons, stripGroup_foreign]

theorem stripArray_none (canonical : Canonical (.array array))
    (none : arrayContainsBowerbird array = false) :
    stripArray array = array := by
  have free : ∀ group ∈ array, groupContainsBowerbird group = false :=
    fun group member => eq_false_of_ne_true (List.any_eq_false.mp none group member)
  have all : array.filter (!groupIsBowerbirdOnly ·) = array := by
    refine List.filter_eq_self.mpr fun group member => ?_
    rw [Bool.not_eq_true']
    refine eq_false_of_ne_true fun only => ?_
    have some := groupContains_of_only only
    rw [free group member] at some
    cases some
  unfold stripArray
  rw [all, List.map_map]
  refine (List.map_congr_left fun group member => ?_).trans (List.map_id array)
  exact stripGroup_none (canonical.mem member) (free group member)

/-- The test by which a kind is reported. -/
theorem stripArray_changes (array : List Json.Value) :
    (((array.filter (!groupIsBowerbirdOnly ·)).map stripGroup).any (·.2) ||
      (array.filter (!groupIsBowerbirdOnly ·)).length ≠ array.length) =
      arrayContainsBowerbird array := by
  rw [Bool.eq_iff_iff, Bool.or_eq_true, decide_eq_true_iff, List.any_map,
    List.any_eq_true, arrayContainsBowerbird, List.any_eq_true]
  constructor
  · rintro (⟨group, kept, flagged⟩ | shorter)
    · exact ⟨group, (List.mem_filter.mp kept).1, stripGroup_flag group ▸ flagged⟩
    · rw [ne_eq, List.length_filter_eq_length_iff] at shorter
      push Not at shorter
      obtain ⟨group, member, only⟩ := shorter
      rw [ne_eq, Bool.not_eq_true', Bool.not_eq_false] at only
      exact ⟨group, member, groupContains_of_only only⟩
  · rintro ⟨group, member, holds⟩
    cases only : groupIsBowerbirdOnly group with
    | true =>
        refine .inr fun equal => ?_
        have kept := List.length_filter_eq_length_iff.mp equal group member
        rw [only] at kept
        cases kept
    | false =>
        refine .inl ⟨group, List.mem_filter.mpr ⟨member, by rw [only]; rfl⟩, ?_⟩
        exact (stripGroup_flag group).trans holds

/-- What a strip makes of the value under a kind. -/
def stripEntry : Json.Value → Json.Value
  | .array array => .array (stripArray array)
  | value => value

theorem stripKinds_array (found : field kind hooks = some (.array array))
    (rest : List String) :
    stripKinds hooks (kind :: rest) =
      let next := stripKinds
        (Json.insertField kind (.array (stripArray array)) hooks) rest
      (next.1, if hasKind hooks kind then kind :: next.2 else next.2) := by
  have changes := stripArray_changes array
  rw [stripKinds.eq_2, found, hasKind, kindArray_found found, ← changes]
  dsimp only
  split <;> rfl

theorem stripKinds_other
    (bare : ∀ array, field kind hooks ≠ some (.array array))
    (rest : List String) :
    stripKinds hooks (kind :: rest) = stripKinds hooks rest := by
  rw [stripKinds.eq_2]
  split
  · rename_i array found
    exact absurd found (bare array)
  · rfl

theorem hasKind_other (bare : ∀ array, field kind hooks ≠ some (.array array)) :
    hasKind hooks kind = false := by
  unfold hasKind kindArray
  split
  · rename_i array found
    exact absurd found (bare array)
  · rfl

theorem array_or_bare (kind : String) (hooks : List (String × Json.Value)) :
    (∃ array, field kind hooks = some (.array array)) ∨
      ∀ array, field kind hooks ≠ some (.array array) := by
  by_contra neither
  push Not at neither
  obtain ⟨⟨array, found⟩, bare⟩ := neither.symm
  exact bare array found

theorem stripKinds_removed (distinct : kinds.Nodup) :
    (stripKinds hooks kinds).2 = kinds.filter (hasKind hooks ·) := by
  induction kinds generalizing hooks with
  | nil => rfl
  | cons kind rest induction =>
      obtain ⟨absent, distinct⟩ := List.nodup_cons.mp distinct
      rcases array_or_bare kind hooks with ⟨array, found⟩ | bare
      · have others : rest.filter (hasKind
            (Json.insertField kind (.array (stripArray array)) hooks) ·) =
            rest.filter (hasKind hooks ·) := by
          refine List.filter_congr fun other member => ?_
          have different : kind ≠ other := fun same => absent (same ▸ member)
          exact hasKind_congr (field_insertField_ne different)
        rw [stripKinds_array found]
        dsimp only
        rw [induction distinct, others]
        cases held : hasKind hooks kind with
        | true => rw [List.filter_cons_of_pos held, if_pos rfl]
        | false =>
            rw [List.filter_cons_of_neg (ne_true_of_eq_false held),
              if_neg Bool.false_ne_true]
      · rw [stripKinds_other bare, List.filter_cons_of_neg
          (ne_true_of_eq_false (hasKind_other bare)), induction distinct]

theorem stripKinds_field (distinct : kinds.Nodup) :
    field key (stripKinds hooks kinds).1 =
      if key ∈ kinds then (field key hooks).map stripEntry
      else field key hooks := by
  induction kinds generalizing hooks with
  | nil => exact (if_neg List.not_mem_nil).symm
  | cons kind rest induction =>
      obtain ⟨absent, distinct⟩ := List.nodup_cons.mp distinct
      rcases array_or_bare kind hooks with ⟨array, found⟩ | bare
      · rw [stripKinds_array found, induction distinct]
        by_cases own : kind = key
        · subst own
          rw [if_neg absent, if_pos List.mem_cons_self, field_insertField_self,
            found]
          rfl
        · rw [field_insertField_ne own]
          refine if_congr ?_ rfl rfl
          rw [List.mem_cons, or_iff_right fun equal => own equal.symm]
      · rw [stripKinds_other bare, induction distinct]
        by_cases own : kind = key
        · subst own
          rw [if_neg absent, if_pos List.mem_cons_self]
          cases found : field kind hooks with
          | none => rfl
          | some value =>
              cases value with
              | array array => exact absurd found (bare array)
              | _ => rfl
        · refine if_congr ?_ rfl rfl
          rw [List.mem_cons, or_iff_right fun equal => own equal.symm]

theorem stripKinds_sorted (sorted : SortedMap.Sorted hooks)
    (kinds : List String) : SortedMap.Sorted (stripKinds hooks kinds).1 := by
  induction kinds generalizing hooks with
  | nil => exact sorted
  | cons kind rest induction =>
      rcases array_or_bare kind hooks with ⟨array, found⟩ | bare
      · rw [stripKinds_array found]
        exact induction (sorted_insertField sorted _ _)
      · rw [stripKinds_other bare]
        exact induction sorted

theorem strip_found (found : field "hooks" fields = some (.object hooks)) :
    stripInstallFrom fields =
      (Json.insertField "hooks" (.object (stripKinds hooks hookKinds).1) fields,
        (stripKinds hooks hookKinds).2) := by
  rw [stripInstallFrom, found]

theorem strip_bare
    (bare : ∀ hooks, field "hooks" fields ≠ some (.object hooks)) :
    stripInstallFrom fields = (fields, []) := by
  unfold stripInstallFrom
  split
  · rename_i hooks found
    exact absurd found (bare hooks)
  · rfl

theorem hooks_or_bare (fields : List (String × Json.Value)) :
    (∃ hooks, field "hooks" fields = some (.object hooks)) ∨
      ∀ hooks, field "hooks" fields ≠ some (.object hooks) := by
  by_contra neither
  push Not at neither
  obtain ⟨⟨hooks, found⟩, bare⟩ := neither.symm
  exact bare hooks found

theorem hooksOf_found (found : field "hooks" fields = some (.object hooks)) :
    hooksOf fields = hooks := by
  rw [hooksOf, found]

theorem hooksOf_bare
    (bare : ∀ hooks, field "hooks" fields ≠ some (.object hooks)) :
    hooksOf fields = [] := by
  unfold hooksOf
  split
  · rename_i hooks found
    exact absurd found (bare hooks)
  · rfl

theorem stripped_field :
    field key (hooksOf (stripInstallFrom fields).1) =
      if key ∈ hookKinds then (field key (hooksOf fields)).map stripEntry
      else field key (hooksOf fields) := by
  rcases hooks_or_bare fields with ⟨hooks, found⟩ | bare
  · rw [strip_found found, hooksOf_insertField, hooksOf_found found]
    exact stripKinds_field hookKinds_nodup
  · rw [strip_bare bare, hooksOf_bare bare]
    exact (ite_self _).symm

theorem strip_removed :
    (stripInstallFrom fields).2 = hookKinds.filter (holdsBowerbird fields ·) := by
  rcases hooks_or_bare fields with ⟨hooks, found⟩ | bare
  · rw [strip_found found, stripKinds_removed hookKinds_nodup]
    unfold holdsBowerbird
    rw [hooksOf_found found]
  · rw [strip_bare bare]
    unfold holdsBowerbird
    rw [hooksOf_bare bare]
    rfl

theorem stripped_kind (member : kind ∈ hookKinds) :
    field kind (hooksOf (stripInstallFrom fields).1) =
      (field kind (hooksOf fields)).map stripEntry :=
  stripped_field.trans (if_pos member)

theorem strip_clean (member : kind ∈ hookKinds) :
    holdsBowerbird (stripInstallFrom fields).1 kind = false := by
  unfold holdsBowerbird
  rcases array_or_bare kind (hooksOf fields) with ⟨array, found⟩ | bare
  · have after : field kind (hooksOf (stripInstallFrom fields).1) =
        some (.array (stripArray array)) := by
      rw [stripped_kind member, found]
      rfl
    unfold hasKind
    rw [kindArray_found after]
    exact stripArray_clean array
  · refine hasKind_other fun array after => ?_
    rw [stripped_kind member] at after
    obtain ⟨value, before, same⟩ := Option.map_eq_some_iff.mp after
    cases value with
    | array source => exact bare source before
    | _ => cases same

theorem strip_reports (canonical : Canonical (.object fields)) (kind : String) :
    kind ∈ (stripInstallFrom fields).2 ↔ kind ∈ hookKinds ∧
      field kind (hooksOf (stripInstallFrom fields).1) ≠
        field kind (hooksOf fields) := by
  rw [strip_removed, List.mem_filter]
  refine and_congr_right fun member => ?_
  constructor
  · intro held same
    have clean : holdsBowerbird (stripInstallFrom fields).1 kind = false :=
      strip_clean member
    rw [holdsBowerbird, hasKind_congr same] at clean
    rw [holdsBowerbird, clean] at held
    cases held
  · intro changed
    by_contra free
    refine changed ?_
    rw [stripped_kind member]
    rcases array_or_bare kind (hooksOf fields) with ⟨array, found⟩ | bare
    · rw [holdsBowerbird, hasKind, kindArray_found found, Bool.not_eq_true] at free
      rw [found]
      exact congrArg (fun array => some (Json.Value.array array))
        (stripArray_none (canonical.hooksOf.field found) free)
    · cases found : field kind (hooksOf fields) with
      | none => rfl
      | some value =>
          cases value with
          | array array => exact absurd found (bare array)
          | _ => rfl

variable (fields) in
theorem strip_keeps : StripKeeps fields (stripInstallFrom fields).1 where
  root := by
    intro key other
    rcases hooks_or_bare fields with ⟨hooks, found⟩ | bare
    · rw [strip_found found]
      exact field_insertField_ne (Ne.symm other)
    · rw [strip_bare bare]
  hooks := fun key free => stripped_field.trans (if_neg free)
  bare := fun bare => by rw [strip_bare bare]
  object := by
    intro hooks found
    rw [strip_found found]
    exact ⟨_, field_insertField_self⟩
  missing := by
    intro kind member none
    rw [stripped_kind member, none]
    rfl
  arrays := by
    intro kind member array found
    refine ⟨stripArray array, ?_, stripArray_stripped array,
      stripArray_foreign array⟩
    rw [stripped_kind member, found]
    rfl

end Strip

/-! The two together. -/

section Undone

variable {fields hooks : List (String × Json.Value)} {kinds : List String}
variable {kind key : String}

theorem padKinds_field :
    field key (padKinds hooks kinds) =
      if key ∈ kinds then some ((field key hooks).getD (.array []))
      else field key hooks := by
  induction kinds generalizing hooks with
  | nil => exact (if_neg List.not_mem_nil).symm
  | cons kind rest induction =>
      by_cases own : kind = key
      · subst own
        rw [if_pos List.mem_cons_self]
        unfold padKinds
        cases found : field kind hooks with
        | some value =>
            refine induction.trans ?_
            rw [found]
            exact ite_self _
        | none =>
            refine induction.trans ?_
            rw [field_insertField_self]
            exact ite_self _
      · have others : key ∈ kind :: rest ↔ key ∈ rest := by
          rw [List.mem_cons, or_iff_right fun equal => own equal.symm]
        refine Eq.trans ?_ (if_congr others rfl rfl).symm
        unfold padKinds
        cases found : field kind hooks with
        | some value => exact induction
        | none =>
            refine induction.trans ?_
            rw [field_insertField_ne own]

theorem padKinds_sorted (sorted : SortedMap.Sorted hooks)
    (kinds : List String) : SortedMap.Sorted (padKinds hooks kinds) := by
  induction kinds generalizing hooks with
  | nil => exact sorted
  | cons kind rest induction =>
      unfold padKinds
      split
      · exact induction sorted
      · exact induction (sorted_insertField sorted _ _)

theorem stripArray_own {array : List Json.Value} (member : kind ∈ hookKinds)
    (canonical : Canonical (.array array))
    (free : arrayContainsBowerbird array = false) :
    stripArray (array ++ [bowerbirdHookGroup kind]) = array := by
  have own : [bowerbirdHookGroup kind].filter (!groupIsBowerbirdOnly ·) = [] := by
    refine List.filter_cons_of_neg ?_
    rw [bowerbird_only_of_own member]
    exact Bool.false_ne_true
  have same := stripArray_none canonical free
  unfold stripArray at same ⊢
  rw [List.filter_append, own, List.append_nil, same]

theorem kindArray_canonical (canonical : Canonical (.object hooks)) (kind : String) :
    Canonical (.array (kindArray kind hooks)) := by
  unfold kindArray
  split
  · rename_i array found
    exact canonical.field found
  · exact .array nofun

theorem undone_hooks (canonical : Canonical (.object fields))
    (shaped : WellShaped fields)
    (free : ∀ kind ∈ hookKinds, holdsBowerbird fields kind = false) :
    (stripKinds (mergeKinds (hooksOf fields) hookKinds).1 hookKinds).1 =
      padKinds (hooksOf fields) hookKinds := by
  have sorted := canonical.hooksOf.sorted
  refine sorted_ext (stripKinds_sorted (mergeKinds_sorted sorted _) _)
    (padKinds_sorted sorted _) fun key => ?_
  rw [stripKinds_field hookKinds_nodup, padKinds_field,
    mergeKinds_field hookKinds_nodup]
  by_cases member : key ∈ hookKinds
  · have none := free key member
    rw [if_pos member, if_pos member, if_pos ⟨member, none⟩]
    have kept := stripArray_own member (kindArray_canonical canonical.hooksOf key) none
    refine (congrArg (fun array => some (Json.Value.array array)) kept).trans ?_
    cases found : field key (hooksOf fields) with
    | none => rw [kindArray, found]; rfl
    | some value =>
        obtain ⟨array, rfl⟩ := shaped.kinds key member value found
        rw [kindArray_found found]
        rfl
  · rw [if_neg member, if_neg member, if_neg fun own => member own.1]

theorem strip_merge (canonical : Canonical (.object fields))
    (shaped : WellShaped fields)
    (free : ∀ kind ∈ hookKinds, holdsBowerbird fields kind = false) :
    (stripInstallFrom (mergeInstallInto fields).1).1 = padded fields := by
  have found : field "hooks" (mergeInstallInto fields).1 =
      some (.object (mergeKinds (hooksOf fields) hookKinds).1) :=
    field_insertField_self
  have sorted := sorted_insertField canonical.sorted "hooks"
    (.object (mergeKinds (hooksOf fields) hookKinds).1)
  rw [strip_found found, undone_hooks canonical shaped free]
  refine sorted_ext (sorted_insertField sorted _ _)
    (sorted_insertField canonical.sorted _ _) fun key => ?_
  unfold padded
  rw [field_insertField, field_insertField]
  split
  · rfl
  · rename_i other
    exact field_insertField_ne other

end Undone

theorem edits_only_its_own {fields : List (String × Json.Value)}
    (canonical : Canonical (.object fields)) : EditsOnlyItsOwn fields where
  idempotent := merge_idempotent canonical
  added := mergeKinds_added hookKinds_nodup
  clean := fun _ member => strip_clean member
  removed := strip_reports canonical
  once := by
    rw [strip_removed]
    exact hookKinds_nodup.filter _
  merge := merge_keeps
  strip := strip_keeps fields
  undone := strip_merge canonical

def sampleHook (command : String) : Json.Value :=
  .object [("command", .string command)]

/-- A hook of bowerbird's beside one of the user's. -/
def sampleGroup : Json.Value :=
  .object [("hooks", .array [sampleHook "bin/bowerbird-shim", sampleHook "mine"]),
    ("matcher", .string "Bash")]

def sampleSettings : List (String × Json.Value) :=
  [("hooks", .object [("Stop", .array [sampleGroup])]), ("model", .null)]

theorem sampleHook_canonical (command : String) : Canonical (sampleHook command) := by
  refine .object (List.pairwise_singleton _ _) fun entry member => ?_
  cases List.mem_singleton.mp member
  exact .string command

theorem sampleGroup_canonical : Canonical sampleGroup := by
  refine .object (by unfold SortedMap.Sorted; decide) fun entry member => ?_
  rcases List.mem_cons.mp member with rfl | member
  · refine .array fun hook member => ?_
    rcases List.mem_cons.mp member with rfl | member
    · exact sampleHook_canonical _
    · cases List.mem_singleton.mp member
      exact sampleHook_canonical _
  · cases List.mem_singleton.mp member
    exact .string "Bash"

theorem sampleSettings_canonical : Canonical (.object sampleSettings) := by
  refine .object (by unfold SortedMap.Sorted; decide) fun entry member => ?_
  rcases List.mem_cons.mp member with rfl | member
  · refine .object (List.pairwise_singleton _ _) fun entry member => ?_
    cases List.mem_singleton.mp member
    refine .array fun group member => ?_
    cases List.mem_singleton.mp member
    exact sampleGroup_canonical
  · cases List.mem_singleton.mp member
    exact .null

theorem edits_only_its_own_mixedGroup :
    EditsOnlyItsOwn sampleSettings ∧
      (mergeInstallInto sampleSettings).2 =
        ["UserPromptSubmit", "PreToolUse", "PostToolUse", "Notification"] ∧
      (stripInstallFrom sampleSettings).2 = ["Stop"] :=
  ⟨edits_only_its_own sampleSettings_canonical, by decide +kernel,
    by decide +kernel⟩

end Bowerbird.Adapter.Settings
