import Bowerbird.Adapter.Install

namespace Bowerbird.Adapter.Install

open Protocol Foundation

/-! When another process replaces the settings while a run is at work.  The run
compares the target before and after it writes its temporary file; it does not
compare what it read. -/

variable {readJson : List UInt8 → Except String Json.Value} {job : Job}

/-- Where the run has read the file and not yet looked at it for the first time. -/
def Phase.gap : Phase → Bool
  | .drafted _ _ | .statting _ _ => true
  | _ => false

/-- The attempt that has looked once and not for the last time. -/
def Phase.watching : Phase → Option Nat
  | .based attempt _ _ | .written attempt _ _ => some attempt
  | _ => none

/-- Before the last look of an attempt, if there is still one to come. -/
def Phase.beforeCheck : Phase → Bool
  | .checked _ _ | .wrote _ _ | .idle _ | .failed _ => false
  | _ => true

/-- A draft is made from what its attempt read. -/
def Drafted (readJson : List UInt8 → Except String Json.Value) (job : Job)
    (draft : Draft) : Prop :=
  ∃ fields, readFields readJson job draft.read = .ok (some fields) ∧
    draft.value = revise job fields

def Computed (readJson : List UInt8 → Except String Json.Value) (job : Job)
    (state : State) : Prop :=
  match state.phase with
  | .drafted _ draft | .statting _ draft | .based _ draft _ | .wrote _ draft =>
      Drafted readJson job draft
  | .written _ draft _ | .checked _ draft =>
      Drafted readJson job draft ∧
        state.tmp.map File.contents = some (printed draft.value)
  | _ => True

/-- What lets no replacement slip through: one that comes in the gap has the
contents that are there; and no last look fails, where the first has shown
nothing, with a replacement in between that has other contents than were read. -/
def Guarded (state : State) : Label → Prop
  | .replace file => state.phase.gap = true →
      state.path.map File.contents = some file.contents
  | .check true =>
      match state.phase with
      | .written attempt draft none => ∀ change ∈ state.replaced,
          change.2.watching = some attempt → draft.read = some change.1.contents
      | _ => True
  | _ => True

instance (state : State) (label : Label) : Decidable (Guarded state label) := by
  unfold Guarded
  split
  · infer_instance
  · split <;> infer_instance
  · infer_instance

/-- With no replacement yet, what was read is there, and the baseline is that of
the target, if it shows anything. -/
def Untouched (state : State) : Prop :=
  state.replaced = none →
    match state.phase with
    | .drafted _ draft | .statting _ draft =>
        draft.read = state.path.map File.contents
    | .based _ _ preRename | .written _ _ preRename =>
        preRename = none ∨ preRename = state.path.map File.identity
    | _ => True

/-- An attempt that has not read the new file will find it out: its baseline, as
it came while the attempt was watching, is not that of the new file. -/
def Noticed (file : File) (place : Phase) (attempt : Nat)
    (preRename : Option Identity) : Prop :=
  place.watching = some attempt ∧ preRename ≠ some file.identity

/-- Where a run stands after a replacement: it has not touched the new file, or
it has put there what comes from its contents. -/
def Follows (file : File) (place : Phase) (state : State) : Prop :=
  match state.phase with
  | .reading _ | .sleeping _ | .idle _ | .failed _ => state.path = some file
  | .drafted _ draft | .statting _ draft | .checked _ draft =>
      state.path = some file ∧ draft.read = some file.contents
  | .based attempt draft preRename | .written attempt draft preRename =>
      state.path = some file ∧ (draft.read = some file.contents ∨
        Noticed file place attempt preRename)
  | .wrote _ draft =>
      draft.read = some file.contents ∧
        state.path.map File.contents = some (printed draft.value)

theorem afterRead_cases (attempt : Nat) (created : Bool)
    (contents : Option (List UInt8)) :
    (∃ error, afterRead readJson job attempt created contents =
      .failed error) ∨
    (∃ outcome, afterRead readJson job attempt created contents =
      .idle outcome) ∨
    ∃ draft, afterRead readJson job attempt created contents =
      .drafted attempt draft ∧ draft.read = contents ∧
      Drafted readJson job draft := by
  unfold afterRead
  cases found : readFields readJson job contents with
  | error error => exact .inl ⟨error, rfl⟩
  | ok fields =>
      cases fields with
      | none => exact .inr (.inl ⟨_, rfl⟩)
      | some fields => exact .inr (.inr ⟨_, rfl, rfl, fields, found, rfl⟩)

theorem afterChange_cases (attempt : Nat) :
    afterChange attempt = .sleeping attempt ∨
      afterChange attempt = .failed (.settingsAtomicRenameRace 5) := by
  unfold afterChange
  split
  · exact .inl rfl
  · exact .inr rfl

variable {state next : State} {label : Label}

theorem Moves.computed (moves : Moves readJson job state label next)
    (computed : Computed readJson job state) :
    Computed readJson job next := by
  unfold Computed at computed ⊢
  cases moves with
  | @read attempt phase created =>
      rcases @afterRead_cases readJson job attempt created
        (state.path.map File.contents) with ⟨_, ended⟩ | ⟨_, ended⟩ | ⟨_, drafts, _, drafted⟩
      · simp only [ended]
      · simp only [ended]
      · simp only [drafts]
        exact drafted
  | create phase =>
      rw [phase] at computed
      exact computed
  | stat failed phase =>
      rw [phase] at computed
      exact computed
  | write phase contents =>
      rw [phase] at computed
      exact ⟨computed, congrArg some contents⟩
  | @retreat attempt _ _ _ phase =>
      rcases afterChange_cases attempt with sleeps | fails
      · simp only [sleeps]
      · simp only [fails]
  | check phase same =>
      rw [phase] at computed
      exact computed
  | rename phase =>
      rw [phase] at computed
      exact computed.1
  | wake phase => trivial
  | fail left running => trivial
  | replace once fresh => exact computed

theorem Moves.untouched (moves : Moves readJson job state label next)
    (untouched : Untouched state) : Untouched next := by
  intro unreplaced
  cases moves with
  | @read attempt phase created =>
      rcases @afterRead_cases readJson job attempt created
        (state.path.map File.contents) with
        ⟨_, ended⟩ | ⟨_, ended⟩ | ⟨_, drafts, found, _⟩
      · simp only [ended]
      · simp only [ended]
      · simp only [drafts]
        exact found
  | create phase =>
      have before := untouched unreplaced
      rw [phase] at before
      exact before
  | stat failed phase =>
      cases failed with
      | true => exact .inl rfl
      | false => exact .inr rfl
  | write phase contents =>
      have before := untouched unreplaced
      rw [phase] at before
      exact before
  | @retreat attempt _ _ _ phase =>
      rcases afterChange_cases attempt with sleeps | fails
      · simp only [sleeps]
      · simp only [fails]
  | check phase same => trivial
  | rename phase => trivial
  | wake phase => trivial
  | fail left running => trivial
  | replace once fresh => cases unreplaced

theorem identity_ne_of_isFresh {file : File} {path : Option File}
    (fresh : isFresh file path = true) :
    path.map File.identity ≠ some file.identity := by
  cases path with
  | none => nofun
  | some other =>
      intro same
      have inodes := congrArg Identity.inode (Option.some.inj same)
      simp only [isFresh, Option.all_some, decide_eq_true_eq] at fresh
      exact fresh inodes

/-- A baseline from before the new file is not that of the new file. -/
theorem noticed_replace {file : File} {place : Phase} {attempt : Nat}
    {preRename : Option Identity} (fresh : isFresh file state.path = true)
    (watching : place.watching = some attempt)
    (baseline : preRename = none ∨ preRename = state.path.map File.identity) :
    Noticed file place attempt preRename := by
  refine ⟨watching, ?_⟩
  rcases baseline with rfl | rfl
  · nofun
  · exact identity_ne_of_isFresh fresh

/-- The new file stands at the path, wherever the run was. -/
theorem follows_replace {file : File} (untouched : Untouched state)
    (once : state.replaced = none) (fresh : isFresh file state.path = true)
    (guarded : Guarded state (.replace file))
    (early : state.phase.beforeCheck = true) :
    Follows file state.phase { state with
      path := some file
      replaced := some (file, state.phase) } := by
  have before := untouched once
  unfold Guarded at guarded
  unfold Follows
  cases phase : state.phase with
  | reading attempt => rfl
  | sleeping attempt => rfl
  | drafted attempt draft | statting attempt draft =>
      rw [phase] at before guarded
      exact ⟨rfl, before.trans (guarded rfl)⟩
  | based attempt draft preRename | written attempt draft preRename =>
      rw [phase] at before
      exact ⟨rfl, .inr (noticed_replace fresh rfl before)⟩
  | checked attempt draft =>
      rw [phase] at early
      cases early
  | wrote attempt draft =>
      rw [phase] at early
      cases early
  | idle outcome => rfl
  | failed error => rfl

theorem Follows.kept {file : File} {place : Phase}
    (follows : Follows file place state)
    (running : ∀ attempt draft, state.phase ≠ .wrote attempt draft) :
    state.path = some file := by
  unfold Follows at follows
  cases phase : state.phase with
  | wrote attempt draft => exact absurd phase (running attempt draft)
  | drafted | statting | checked | based | written =>
      rw [phase] at follows
      exact follows.1
  | reading | sleeping | idle | failed =>
      rw [phase] at follows
      exact follows

/-- A last look that shows what the first has shown is one by an attempt that has
read the new file. -/
theorem read_of_check {file : File} {place : Phase} {attempt : Nat}
    {draft : Draft} {preRename : Option Identity} {failed : Bool}
    (guarded : Guarded state (.check failed))
    (phase : state.phase = .written attempt draft preRename)
    (same : preRename = identityAt failed state.path)
    (replaced : state.replaced = some (file, place))
    (there : state.path = some file)
    (found : draft.read = some file.contents ∨
      Noticed file place attempt preRename) :
    draft.read = some file.contents := by
  rcases found with read | ⟨watching, other⟩
  · exact read
  · cases failed with
    | false =>
        rw [there] at same
        exact absurd same other
    | true =>
        cases same
        simp only [Guarded, phase] at guarded
        exact guarded (file, place) replaced watching

theorem Moves.follows {file : File} {place : Phase}
    (moves : Moves readJson job state label next)
    (guarded : Guarded state label) (computed : Computed readJson job state)
    (replaced : state.replaced = some (file, place))
    (follows : Follows file place state) : Follows file place next := by
  unfold Computed at computed
  unfold Follows at follows ⊢
  cases moves with
  | @read attempt phase created =>
      rw [phase] at follows
      rcases @afterRead_cases readJson job attempt created
        (state.path.map File.contents) with
        ⟨_, ended⟩ | ⟨_, ended⟩ | ⟨_, drafts, found, _⟩
      · simp only [ended]
        exact follows
      · simp only [ended]
        exact follows
      · simp only [drafts]
        refine ⟨follows, ?_⟩
        rw [found, follows]
        rfl
  | create phase =>
      rw [phase] at follows
      exact follows
  | stat failed phase =>
      rw [phase] at follows
      exact ⟨follows.1, .inl follows.2⟩
  | write phase contents =>
      rw [phase] at follows
      exact follows
  | @retreat attempt _ _ _ phase =>
      rw [phase] at follows
      rcases afterChange_cases attempt with sleeps | fails
      · simp only [sleeps]
        exact follows.1
      · simp only [fails]
        exact follows.1
  | check phase same =>
      rw [phase] at follows
      exact ⟨follows.1,
        read_of_check guarded phase same replaced follows.1 follows.2⟩
  | rename phase =>
      rw [phase] at follows computed
      exact ⟨follows.2, computed.2⟩
  | wake phase =>
      rw [phase] at follows
      exact follows
  | fail left running =>
      exact @Follows.kept state _ _ follows running
  | replace once fresh =>
      rw [once] at replaced
      cases replaced

structure Sound (readJson : List UInt8 → Except String Json.Value) (job : Job)
    (state : State) : Prop where
  computed : Computed readJson job state
  untouched : Untouched state
  follows : ∀ file place, state.replaced = some (file, place) →
    place.beforeCheck = true → Follows file place state

theorem Moves.replaced_cases (moves : Moves readJson job state label next) :
    next.replaced = state.replaced ∨
      ∃ file, label = .replace file ∧ state.replaced = none ∧
        isFresh file state.path = true ∧
        next = { state with
          path := some file
          replaced := some (file, state.phase) } := by
  cases moves with
  | replace once fresh => exact .inr ⟨_, rfl, once, fresh, rfl⟩
  | _ => exact .inl rfl

theorem Sound.moves (sound : Sound readJson job state)
    (guarded : Guarded state label)
    (moves : Moves readJson job state label next) :
    Sound readJson job next where
  computed := moves.computed sound.computed
  untouched := moves.untouched sound.untouched
  follows := by
    intro file place replaced early
    rcases moves.replaced_cases with same | ⟨other, rfl, once, fresh, rfl⟩
    · rw [same] at replaced
      exact moves.follows guarded sound.computed replaced
        (sound.follows file place replaced early)
    · cases replaced
      exact follows_replace sound.untouched once fresh guarded early

theorem sound_of_run {path : Option File} {final : State} {seen : List Empty}
    (run : (machine readJson job).Run Guarded (.boot path) final seen) :
    Sound readJson job final := by
  apply run.invariant (fun state _ => Sound readJson job state)
  · exact {
      computed := trivial
      untouched := fun _ => trivial
      follows := by
        intro file place replaced
        cases replaced }
  · intro middle next _ _ label _ sound guarded taken
    obtain ⟨after, moved, same⟩ := Option.map_eq_some_iff.mp taken
    cases same
    exact sound.moves guarded (step_moves moved)

/-- The other process's file is at the path, or what the run has put there comes
from its contents. -/
def Kept (file : File) (state : State) : Prop :=
  match state.phase with
  | .wrote _ draft => draft.read = some file.contents
  | _ => state.path = some file

/-- What a run puts at the path comes from what it read, and a replacement that
comes before a last look is kept, where none slips through. -/
theorem replacement_kept {path : Option File} {final : State}
    {seen : List Empty} {file : File} {place : Phase}
    (run : (machine readJson job).Run Guarded (.boot path) final seen)
    (replaced : final.replaced = some (file, place))
    (early : place.beforeCheck = true) :
    (∀ attempt draft, final.phase = .wrote attempt draft →
      ∃ fields, readFields readJson job draft.read = .ok (some fields) ∧
        final.path.map File.contents =
          some (printed (revise job fields))) ∧
    Kept file final := by
  have sound := sound_of_run run
  have follows := sound.follows file place replaced early
  have computed := sound.computed
  constructor
  · intro attempt draft wrote
    unfold Follows at follows
    unfold Computed at computed
    rw [wrote] at follows computed
    obtain ⟨fields, found, value⟩ := computed
    refine ⟨fields, found, ?_⟩
    rw [← value]
    exact follows.2
  · unfold Kept
    cases phase : final.phase with
    | wrote attempt draft =>
        unfold Follows at follows
        rw [phase] at follows
        exact follows.1
    | _ =>
        exact follows.kept (by
          rw [phase]
          intro _ _ other
          cases other)

/-- Whatever a first attempt has read, it overwrites a file that is put there in
the gap, should nothing fail, and one that comes after a baseline that failed,
should the last look fail too. -/
theorem overwrites_unguarded {path : Option File} {file tmp : File}
    {fields : List (String × Json.Value)}
    (found : readFields readJson job (path.map File.contents) =
      .ok (some fields))
    (fresh : isFresh file path = true) (other : isFresh tmp (some file) = true)
    (contents : tmp.contents = printed (revise job fields)) (looks : Bool) :
    let before := [Label.createDir false, .statBaseline looks]
    let after := [Label.writeTmp tmp, .check looks, .rename false]
    ∃ final seen place draft, (machine readJson job).exec (.boot path)
        (.read false :: if looks then before ++ .replace file :: after
          else .replace file :: (before ++ after)) = some (final, seen) ∧
      final.replaced = some (file, place) ∧ place.beforeCheck = true ∧
      final.phase = .wrote 0 draft ∧ draft.read = path.map File.contents ∧
      final.path = some tmp := by
  intro before after
  let draft : Draft := {
    read := path.map File.contents
    value := revise job fields
    outcome := report job (createdBy 0 false path) fields }
  have reads : afterRead readJson job 0 (createdBy 0 false path)
      (path.map File.contents) = .drafted 0 draft := by
    rw [afterRead, found]
  have free : isFresh file none = true := rfl
  cases looks with
  | false =>
      refine ⟨{
        path := some tmp
        tmp := none
        phase := .wrote 0 draft
        created := createdBy 0 false path
        replaced := some (file, .drafted 0 draft) }, [], _, draft, ?_, rfl, rfl,
        rfl, rfl, rfl⟩
      simp [before, after, Machine.exec, machine, step, identityAt, State.boot,
        reads, fresh, free, other, contents, draft]
  | true =>
      refine ⟨{
        path := some tmp
        tmp := none
        phase := .wrote 0 draft
        created := createdBy 0 false path
        replaced := some (file, .based 0 draft none) }, [], _, draft, ?_, rfl,
        rfl, rfl, rfl, rfl⟩
      simp [before, after, Machine.exec, machine, step, identityAt, State.boot,
        reads, fresh, free, other, contents, draft]

/-! Another process sets a model while a run is at work. -/

def emptySettings : File :=
  { inode := 1, mtime := some 10, contents := Utf8.encode "\x7b\x7d\n" }

def modelSettings : File :=
  { inode := 2
    mtime := some 11
    contents := Utf8.encode "\x7b\"model\":\"opus\"\x7d\n" }

def readSettings (contents : List UInt8) : Except String Json.Value :=
  if contents = emptySettings.contents then .ok (.object [])
  else if contents = modelSettings.contents then
    .ok (.object [("model", .string "opus")])
  else .error "expected value at line 1 column 1"

def writesFrom (inode : Nat) (fields : List (String × Json.Value)) :
    List Label :=
  [.writeTmp {
      inode
      mtime := some 12
      contents := printed (revise .uninstall fields) },
    .check false]

/-- The model is set after the baseline: the first attempt backs off.  In the
second the baseline fails. -/
def setsAfterBaseline : List Label :=
  [.read false, .createDir false, .statBaseline false, .replace modelSettings] ++
    writesFrom 3 [] ++
    [.wake, .read false, .createDir false, .statBaseline true] ++
    writesFrom 4 [("model", .string "opus")] ++
    [.wake, .read false, .createDir false, .statBaseline false] ++
    writesFrom 5 [("model", .string "opus")] ++ [.rename false]

def landed? (file : File) (state : State) : Option Phase :=
  match state.replaced with
  | some (other, place) => if other = file then some place else none
  | none => none

theorem replaced_of_landed {file : File} {state : State} {place : Phase}
    (landed : landed? file state = some place) :
    state.replaced = some (file, place) := by
  unfold landed? at landed
  split at landed
  · rename_i replaced
    split at landed
    · rename_i same
      cases landed
      rw [replaced, same]
    · cases landed
  · cases landed

theorem replacement_kept_setsAfterBaseline :
    ∃ final seen, (machine readSettings .uninstall).Run Guarded
        (.boot (some emptySettings)) final seen ∧
      Kept modelSettings final ∧ final.phase.beforeCheck = false := by
  have meets : (machine readSettings .uninstall).execMeets Guarded
      (.boot (some emptySettings)) setsAfterBaseline := by
    decide
  have ⟨final, seen, run, checked⟩ := Machine.exec_check meets
    (fun result : State × List Empty =>
      !result.1.phase.beforeCheck &&
        (landed? modelSettings result.1).any Phase.beforeCheck)
    (by decide)
  rw [Bool.and_eq_true, Bool.not_eq_true', Option.any_eq_true] at checked
  obtain ⟨ended, place, landed, early⟩ := checked
  exact ⟨final, seen, run,
    (replacement_kept run (replaced_of_landed landed) early).2, ended⟩

theorem overwritten_by_install (looks : Bool) :
    ∃ final seen place, (machine readSettings .install).Run
        (fun _ _ => True) (.boot (some emptySettings)) final seen ∧
      final.replaced = some (modelSettings, place) ∧
      place.beforeCheck = true ∧ ¬ Kept modelSettings final ∧
      final.path.map File.contents = some (printed (revise .install [])) := by
  obtain ⟨final, seen, place, draft, executed, replaced, early, wrote, read,
    path⟩ := @overwrites_unguarded readSettings .install (some emptySettings)
      modelSettings {
        inode := 3
        mtime := some 12
        contents := printed (revise .install []) }
      [] rfl (by decide) (by decide) rfl looks
  refine ⟨final, seen, place,
    Machine.exec_run executed (Machine.execMeets_true _ _ _), replaced, early,
    ?_, ?_⟩
  · unfold Kept
    rw [wrote]
    simp only [read]
    decide
  · rw [path]
    rfl

/-- An install that has read an empty document loses the model set before its
first look. -/
theorem replacement_in_gap_is_overwritten :
    ∃ final seen place, (machine readSettings .install).Run
        (fun _ _ => True) (.boot (some emptySettings)) final seen ∧
      final.replaced = some (modelSettings, place) ∧
      place.beforeCheck = true ∧ ¬ Kept modelSettings final ∧
      final.path.map File.contents = some (printed (revise .install [])) :=
  overwritten_by_install false

end Bowerbird.Adapter.Install
