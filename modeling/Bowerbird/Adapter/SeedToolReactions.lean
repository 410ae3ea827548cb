import Bowerbird.Adapter.AtomicWrite

namespace Bowerbird.Adapter.Install

open Foundation Foundation.Directory

/-! Seeding the bundled tool reactions, by any number of runs at once, while
another process may create something at the target. -/

inductive SeedError where
  | seedTargetNotFile (kind : String)
  | seedWrite
  | seedRename
  deriving Repr, DecidableEq

inductive SeedOutcome where
  | wrote
  | alreadyPresent
  deriving Repr, DecidableEq

abbrev Seeding (Value : Type) : Type :=
  Action String SeedError Value

def describeNonFile : Entry → String
  | .directory => "directory"
  | .symlink => "symlink"
  | _ => "non-regular file"

/-- What a run that finds the target occupied answers. -/
def honorTarget : Entry → Seeding SeedOutcome
  | .file _ => return .alreadyPresent
  | entry => throw (.seedTargetNotFile (describeNonFile entry))

section Program

variable (bundled : List UInt8) (target tmpPath : String)

/-- The temporary file, written and synced. -/
def writeSeed : Seeding Unit := do
  attempt .createDirAll .seedWrite
  let file ← attempt (.openNew tmpPath) .seedWrite
  writeAll file .seedWrite bundled
  attempt (.sync file) .seedWrite

/-- A link, and not a rename: a link fails when the target exists. -/
def publishSeed : Seeding SeedOutcome := do
  let publish ← request (.hardLink tmpPath target)
  let _ ← request (.remove tmpPath)
  match publish with
  | .ok () =>
      let _ ← request .syncDir
      return .wrote
  | .error .alreadyExists =>
      match ← request (.symlinkMetadata target) with
      | .ok entry => honorTarget entry
      | .error _ => throw .seedRename
  | .error _ => throw .seedRename

def seedToolReactions : Seeding SeedOutcome := do
  match ← request (.symlinkMetadata target) with
  | .ok entry => honorTarget entry
  | .error .notFound =>
      writeSeed bundled tmpPath
      publishSeed target tmpPath
  | .error _ => throw .seedWrite

end Program

/-! What the runs share, and what others do at the target: they create what they
like where there is nothing, and may edit the file that is there. -/

inductive Act where
  | createFile (node : Node)
  | createOther (kind : { entry : Entry // ∀ inode, entry ≠ .file inode })
  | edit (node : Node)

/-- `publishers` are the runs at whose calls the target has appeared. -/
structure World (Id : Type) where
  files : Directory String
  publishers : List Id

section World

variable {Id : Type} (target : String)

def World.handle (id : Id) (choice : Choice) (call : Call String)
    (world : World Id) : call.Answer × World Id :=
  let (answer, files) := Directory.handle choice call world.files
  (answer, {
    files
    publishers :=
      if world.files.entry target = none ∧ files.entry target ≠ none then
        world.publishers ++ [id]
      else world.publishers })

def Act.apply (act : Act) (files : Directory String) : Directory String :=
  match act, files.entry target with
  | .createFile node, none => files.create target node
  | .createOther kind, none =>
      files.point target (some kind.1) fun inode named =>
        absurd (Option.some.inj named) (kind.2 inode)
  | .edit node, some (.file inode) => files.edit inode node
  | _, _ => files

def World.outside (act : Act) (world : World Id) : World Id :=
  { world with files := act.apply target world.files }

end World

/-! What a run does to the files. -/

section Files

variable (bundled : List UInt8) (target tmpPath : String)

/-- The files of others stay as they are, and so does the target once there is
one; where there is none, it appears complete. -/
structure Discreet (before after : Directory String) : Prop where
  others : ∀ name file, name ≠ tmpPath → name ≠ target →
    before.Sole name file →
      after.Sole name file ∧ after.node file = before.node file
  kept : before.entry target ≠ none →
    after.entry target = before.entry target ∧
      after.contents target = before.contents target
  appears : before.entry target = none →
    after.entry target = none ∨ after.contents target = some bundled

variable {bundled target tmpPath}
variable {dir : Directory String} {choice : Choice} {file : Nat}

theorem Discreet.refl : Discreet bundled target tmpPath dir dir where
  others _ _ _ _ sole := ⟨sole, rfl⟩
  kept _ := ⟨rfl, rfl⟩
  appears vacant := .inl vacant

/-- A call that leaves the target alone. -/
theorem Discreet.aside {after : Directory String}
    (others : ∀ name file, name ≠ tmpPath → name ≠ target →
      dir.Sole name file →
        after.Sole name file ∧ after.node file = dir.node file)
    (entry : after.entry target = dir.entry target)
    (node : ∀ inode, dir.entry target = some (.file inode) →
      after.node inode = dir.node inode) :
    Discreet bundled target tmpPath dir after where
  others := others
  kept _ :=
    ⟨entry, contents_congr entry fun inode named => by rw [node inode named]⟩
  appears vacant := .inl (entry.trans vacant)

theorem Discreet.openNew (differs : tmpPath ≠ target) :
    Discreet bundled target tmpPath dir
      (handle choice (.openNew tmpPath) dir).2 := by
  rcases @handle_openNew _ _ dir choice tmpPath with
    ⟨error, refused⟩ | ⟨_, opened⟩
  · rw [refused]
    exact Discreet.refl
  · rw [opened]
    refine Discreet.aside ?_ (Function.update_of_ne differs.symm _ _) ?_
    · intro name file apart _ sole
      refine ⟨sole.create apart.symm _, ?_⟩
      rw [create_node, Function.update_of_ne (Nat.ne_of_lt sole.known)]
    · intro inode named
      rw [create_node,
        Function.update_of_ne (Nat.ne_of_lt (dir.known target inode named))]

theorem Discreet.write (differs : tmpPath ≠ target)
    (sole : dir.Sole tmpPath file) (bytes : List UInt8) :
    Discreet bundled target tmpPath dir
      (handle choice (.write file bytes) dir).2 := by
  rcases @handle_write _ _ dir choice file bytes with
    ⟨error, refused⟩ | ⟨taken, _, wrote⟩
  · rw [refused]
    exact Discreet.refl
  · have others : ∀ inode, ∀ name ≠ tmpPath,
        dir.entry name = some (.file inode) → inode ≠ file := by
      rintro inode name apart named rfl
      exact sole.elsewhere apart named
    rw [wrote]
    refine Discreet.aside ?_ rfl ?_
    · intro name inode apart _ mine
      refine ⟨mine.of_entries rfl fun _ => .inl rfl, ?_⟩
      rw [edit_node, Function.update_of_ne (others inode name apart mine.named)]
    · intro inode named
      rw [edit_node,
        Function.update_of_ne (others inode target differs.symm named)]

theorem Discreet.remove (differs : tmpPath ≠ target) :
    Discreet bundled target tmpPath dir
      (handle choice (.remove tmpPath) dir).2 := by
  rcases @handle_remove _ _ dir choice tmpPath with ⟨error, refused⟩ | removed
  · rw [refused]
    exact Discreet.refl
  · rw [removed]
    refine Discreet.aside ?_ (Function.update_of_ne differs.symm _ _)
      fun _ _ => rfl
    intro name file apart _ sole
    exact ⟨sole.unlink apart.symm, rfl⟩

/-- The link publishes what the temporary file holds, or does nothing. -/
theorem Discreet.hardLink (sole : dir.Sole tmpPath file)
    (complete : (dir.node file).contents = bundled) :
    Discreet bundled target tmpPath dir
      (handle choice (.hardLink tmpPath target) dir).2 := by
  rcases @handle_hardLink _ _ dir choice tmpPath target with
    ⟨error, refused⟩ | ⟨inode, _, vacant, linked⟩
  · rw [refused]
    exact Discreet.refl
  · rw [linked]
    constructor
    · intro name inode apart away mine
      refine ⟨mine.of_entries (Function.update_of_ne away _ _) ?_, rfl⟩
      intro other
      rw [link_entry, Function.update_apply]
      split
      · right
        intro same
        exact apart (mine.only tmpPath same).symm
      · exact .inl rfl
    · intro occupied
      exact absurd vacant occupied
    · intro _
      have named : (dir.link tmpPath target).entry target =
          some (.file file) := by simp [sole.named]
      rw [contents_file named]
      exact .inr (congrArg some complete)

end Files

section Runs

variable {Id : Type} (bundled : List UInt8) (target tmpPath : String) (id : Id)

/-- What a run promises. -/
structure Seeds (before after : World Id) : Prop where
  discreet : Discreet bundled target tmpPath before.files after.files
  published : ∀ id ∈ before.publishers, id ∈ after.publishers

/-- What a run may count on. -/
structure Relies (before after : World Id) : Prop where
  published : ∀ id ∈ before.publishers, id ∈ after.publishers
  stays : before.files.entry target ≠ none →
    after.files.entry target = before.files.entry target
  sole : ∀ file, before.files.Sole tmpPath file →
    after.files.Sole tmpPath file ∧
      after.files.node file = before.files.node file

/-- The temporary file is the run's own and holds what it has written. -/
structure Owns (file : Nat) (written : List UInt8) (world : World Id) :
    Prop where
  sole : world.files.Sole tmpPath file
  written : (world.files.node file).contents = written

def Seeded (outcome : SeedOutcome) (world : World Id) : Prop :=
  match outcome with
  | .wrote => id ∈ world.publishers
  | .alreadyPresent =>
      ∃ inode, world.files.entry target = some (.file inode)

def SeedSound {Value : Type} (post : Value → World Id → Prop)
    (program : Seeding Value) (world : World Id) : Prop :=
  Program.SafeExcept (World.handle target id) (Relies target tmpPath)
    (Seeds bundled target tmpPath) post (fun _ _ => True) program world

variable {bundled target tmpPath id}
variable {world later : World Id} {file : Nat} {written : List UInt8}

theorem Relies.refl : Relies target tmpPath world world where
  published _ member := member
  stays _ := rfl
  sole _ sole := ⟨sole, rfl⟩

theorem Relies.trans {last : World Id}
    (first : Relies target tmpPath world later)
    (second : Relies target tmpPath later last) :
    Relies target tmpPath world last where
  published id member := second.published id (first.published id member)
  stays occupied := by
    have same := first.stays occupied
    have occupied' : later.files.entry target ≠ none := by
      rw [same]
      exact occupied
    exact (second.stays occupied').trans same
  sole file sole := by
    obtain ⟨middle, node⟩ := first.sole file sole
    obtain ⟨final, node'⟩ := second.sole file middle
    exact ⟨final, node'.trans node⟩

theorem World.handle_published {choice : Choice} {call : Call String}
    (other : Id) (member : other ∈ world.publishers) :
    other ∈ (World.handle target id choice call world).2.publishers := by
  simp only [World.handle]
  split
  · exact List.mem_append_left _ member
  · exact member

theorem Owns.stable (owns : Owns tmpPath file written world)
    (changed : Relies target tmpPath world later) :
    Owns tmpPath file written later := by
  obtain ⟨sole, node⟩ := changed.sole file owns.sole
  exact ⟨sole, by rw [node, owns.written]⟩

theorem Seeded.stable {outcome : SeedOutcome}
    (seeded : Seeded target id outcome world)
    (changed : Relies target tmpPath world later) :
    Seeded target id outcome later := by
  cases outcome with
  | wrote => exact changed.published id seeded
  | alreadyPresent =>
      obtain ⟨inode, named⟩ := seeded
      refine ⟨inode, ?_⟩
      rw [changed.stays (by simp [named]), named]

section Calls

variable {Value Value' : Type} {post : Value → World Id → Prop}

theorem SeedSound.throw {error : SeedError} :
    SeedSound bundled target tmpPath id post (MonadExcept.throw error) world :=
  fun _ _ => trivial

theorem SeedSound.bind {first : Seeding Value'}
    {next : Value' → Seeding Value} {middle : Value' → World Id → Prop}
    (safe : SeedSound bundled target tmpPath id middle first world)
    (goesOn : ∀ value world, middle value world →
      SeedSound bundled target tmpPath id post (next value) world) :
    SeedSound bundled target tmpPath id post (first >>= next) world :=
  Program.SafeExcept.bind (fun _ => Relies.refl)
    (Program.SafeExcept.mono goesOn safe)

/-- A call from a state that the others may still change. -/
theorem SeedSound.requested {call : Call String}
    {next : call.Answer → Seeding Value} (holds : World Id → Prop)
    (stable : ∀ {world later}, holds world → Relies target tmpPath world later →
      holds later)
    (safe : ∀ world choice, holds world →
      Discreet bundled target tmpPath world.files
          (handle choice call world.files).2 ∧
        SeedSound bundled target tmpPath id post
          (next (handle choice call world.files).1)
          (World.handle target id choice call world).2)
    (initially : holds world) :
    SeedSound bundled target tmpPath id post (request call >>= next) world := by
  refine request_bind ?_
  intro later changed choice
  obtain ⟨discreet, goesOn⟩ := safe later choice (stable initially changed)
  exact ⟨⟨discreet, World.handle_published⟩, goesOn⟩

theorem SeedSound.attempted {call : Call String} {error : SeedError}
    {next : call.Value → Seeding Value} (holds : World Id → Prop)
    (stable : ∀ {world later}, holds world → Relies target tmpPath world later →
      holds later)
    (safe : ∀ world choice, holds world →
      Discreet bundled target tmpPath world.files
          (handle choice call world.files).2 ∧
        ∀ value, (handle choice call world.files).1 = .ok value →
          SeedSound bundled target tmpPath id post (next value)
            (World.handle target id choice call world).2)
    (initially : holds world) :
    SeedSound bundled target tmpPath id post
      (attempt call error >>= next) world := by
  refine SeedSound.requested holds stable ?_ initially
  intro world choice holds'
  obtain ⟨discreet, goesOn⟩ := safe world choice holds'
  refine ⟨discreet, ?_⟩
  cases answer : (handle choice call world.files).1 with
  | ok value => exact goesOn value answer
  | error kind => exact SeedSound.throw

/-- A call that changes nothing, with a fact that the others leave alone. -/
theorem SeedSound.idle {call : Call String} {next : call.Answer → Seeding Value}
    (holds : World Id → Prop)
    (stable : ∀ {world later}, holds world → Relies target tmpPath world later →
      holds later)
    (idle : call.isIdle = true)
    (goesOn : ∀ world choice, holds world →
      (World.handle target id choice call world).2 = world →
        SeedSound bundled target tmpPath id post
          (next (handle choice call world.files).1) world)
    (initially : holds world) :
    SeedSound bundled target tmpPath id post (request call >>= next) world := by
  refine SeedSound.requested holds stable ?_ initially
  intro world choice holds'
  have still : (World.handle target id choice call world).2 = world := by
    simp only [World.handle, handle_idle idle]
    rw [if_neg fun appears => appears.2 appears.1]
  rw [handle_idle idle, still]
  exact ⟨Discreet.refl, goesOn world choice holds' still⟩

end Calls

theorem honorTarget_sound {entry : Entry}
    (named : world.files.entry target = some entry) :
    SeedSound bundled target tmpPath id (Seeded target id)
      (honorTarget entry) world := by
  cases entry with
  | file inode =>
      intro later changed
      have seeded : Seeded target id .alreadyPresent world := ⟨inode, named⟩
      exact seeded.stable changed
  | directory => exact SeedSound.throw
  | symlink => exact SeedSound.throw
  | special => exact SeedSound.throw

theorem Owns.write {choice : Choice}
    (owns : Owns tmpPath file written world) (bytes : List UInt8) :
    (∃ error, (handle choice (.write file bytes) world.files).1 =
        .error error ∧
      Owns tmpPath file written
        (World.handle target id choice (.write file bytes) world).2) ∨
    ∃ taken ≤ bytes.length,
      (handle choice (.write file bytes) world.files).1 = .ok taken ∧
      Owns tmpPath file (written ++ bytes.take taken)
        (World.handle target id choice (.write file bytes) world).2 := by
  have same : (World.handle target id choice (.write file bytes) world).2.files =
      (handle choice (.write file bytes) world.files).2 := rfl
  rcases @handle_write _ _ world.files choice file bytes with
    ⟨error, refused⟩ | ⟨taken, fits, wrote⟩
  · refine .inl ⟨error, by rw [refused], ?_⟩
    constructor
    · rw [same, refused]
      exact owns.sole
    · rw [same, refused]
      exact owns.written
  · refine .inr ⟨taken, fits, by rw [wrote], ?_⟩
    constructor
    · rw [same, wrote]
      exact owns.sole.of_entries rfl fun _ => .inl rfl
    · rw [same, wrote, edit_node, Function.update_self, owns.written]

theorem Owns.openNew {choice : Choice}
    (answer : (handle choice (.openNew tmpPath) world.files).1 = .ok file) :
    Owns tmpPath file []
      (World.handle target id choice (.openNew tmpPath) world).2 := by
  have same : (World.handle target id choice (.openNew tmpPath) world).2.files =
      (handle choice (.openNew tmpPath) world.files).2 := rfl
  rcases @handle_openNew _ _ world.files choice tmpPath with
    ⟨error, refused⟩ | ⟨_, opened⟩
  · rw [refused] at answer
    cases answer
  · rw [opened] at answer
    cases answer
    constructor
    · rw [same, opened]
      exact Sole.of_create _ _ _
    · rw [same, opened]
      simp

/-- The run whose link succeeds is a publisher. -/
theorem published_of_linked {choice : Choice}
    (linked : (handle choice (.hardLink tmpPath target) world.files).1 =
      .ok ()) :
    id ∈ (World.handle target id choice (.hardLink tmpPath target)
      world).2.publishers := by
  rcases @handle_hardLink _ _ world.files choice tmpPath target with
    ⟨error, refused⟩ | ⟨inode, named, vacant, linked'⟩
  · rw [refused] at linked
    cases linked
  · simp only [World.handle, linked']
    rw [if_pos ⟨vacant, by simp [named]⟩]
    exact List.mem_append_right _ (List.mem_singleton.mpr rfl)

theorem writeSeedAll_sound (differs : tmpPath ≠ target) (bytes : List UInt8)
    (owns : Owns tmpPath file written world) :
    SeedSound bundled target tmpPath id
      (fun _ => Owns tmpPath file (written ++ bytes))
      (writeAll file .seedWrite bytes) world := by
  refine writeAll_safe (Owns tmpPath file) ?_ ?_ ?_ bytes written owns
  · intro written state later owns changed
    exact owns.stable changed
  · intro written bytes state choice owns
    exact ⟨⟨Discreet.write differs owns.sole bytes, World.handle_published⟩,
      owns.write bytes⟩
  · intro _ _ _
    trivial

theorem writeSeed_sound (differs : tmpPath ≠ target) :
    SeedSound bundled target tmpPath id
      (fun _ world => ∃ file, Owns tmpPath file bundled world)
      (writeSeed bundled tmpPath) world := by
  unfold writeSeed
  refine SeedSound.attempted (fun _ => True) (fun _ _ => trivial) ?_ trivial
  intro world choice _
  refine ⟨by rw [handle_idle rfl]; exact Discreet.refl, fun _ _ => ?_⟩
  refine SeedSound.attempted (fun _ => True) (fun _ _ => trivial) ?_ trivial
  intro world choice _
  refine ⟨Discreet.openNew differs, ?_⟩
  intro file answer
  have owns : Owns tmpPath file []
      (World.handle target id choice (.openNew tmpPath) world).2 := by
    exact Owns.openNew answer
  refine SeedSound.bind (writeSeedAll_sound differs bundled owns) ?_
  intro _ world owns
  unfold attempt
  refine SeedSound.idle (Owns tmpPath file bundled)
    (fun owns changed => owns.stable changed) rfl ?_ owns
  intro world choice owns _
  cases (handle choice (.sync file) world.files).1 with
  | ok value =>
      intro later changed
      exact ⟨file, owns.stable changed⟩
  | error kind => exact SeedSound.throw

theorem publishSeed_sound (differs : tmpPath ≠ target)
    (owns : Owns tmpPath file bundled world) :
    SeedSound bundled target tmpPath id (Seeded target id)
      (publishSeed target tmpPath) world := by
  unfold publishSeed
  refine SeedSound.requested (Owns tmpPath file bundled)
    (fun owns changed => owns.stable changed) ?_ owns
  intro world choice owns
  refine ⟨Discreet.hardLink owns.sole owns.written, ?_⟩
  generalize linked : (handle choice (.hardLink tmpPath target) world.files).1 =
    publish
  refine SeedSound.requested
    (fun world => publish = .ok () → id ∈ world.publishers) ?_ ?_ ?_
  · intro world later holds changed published
    exact changed.published id (holds published)
  · intro world choice holds
    refine ⟨Discreet.remove differs, ?_⟩
    cases publish with
    | ok value =>
        refine SeedSound.idle (fun world => id ∈ world.publishers)
          (fun member changed => changed.published id member) rfl ?_ ?_
        · intro world _ member _ later changed
          exact changed.published id member
        · exact World.handle_published id (holds rfl)
    | error kind =>
        cases kind with
        | alreadyExists =>
            refine SeedSound.idle (fun _ => True) (fun _ _ => trivial) rfl ?_
              trivial
            intro world choice _ _
            rcases @handle_symlinkMetadata _ _ world.files choice target with
              ⟨error, answer⟩ | ⟨entry, answer, named⟩
            · rw [answer]
              exact SeedSound.throw
            · rw [answer]
              exact honorTarget_sound named
        | notFound => exact SeedSound.throw
        | other => exact SeedSound.throw
  · rintro rfl
    exact published_of_linked linked

theorem seedToolReactions_sound (differs : tmpPath ≠ target) :
    SeedSound bundled target tmpPath id (Seeded target id)
      (seedToolReactions bundled target tmpPath) world := by
  unfold seedToolReactions
  refine SeedSound.idle (fun _ => True) (fun _ _ => trivial) rfl ?_ trivial
  intro world choice _ _
  rcases @handle_symlinkMetadata _ _ world.files choice target with
    ⟨error, answer⟩ | ⟨entry, answer, named⟩
  · rw [answer]
    cases error with
    | notFound =>
        refine SeedSound.bind (writeSeed_sound differs) ?_
        rintro _ world ⟨file, owns⟩
        exact publishSeed_sound differs owns
    | alreadyExists => exact SeedSound.throw
    | other => exact SeedSound.throw
  · rw [answer]
    exact honorTarget_sound named

end Runs

/-! Any number of runs, each with a temporary name of its own. -/

abbrev SeedPool (Id : Type) : Type :=
  Pool Id (Call String) Call.Answer (Except SeedError SeedOutcome) (World Id)

abbrev SeedTurn (Id : Type) : Type :=
  Turn Id Choice Act

section Pool

variable {Id : Type} [DecidableEq Id]
variable (bundled : List UInt8) (target : String) (stamps : Id → Stamp)
variable (files : Directory String) (turns : List (SeedTurn Id))

def SeedPool.start : SeedPool Id where
  state := { files, publishers := [] }
  run id := (seedToolReactions bundled target (tmpPathFor target (stamps id))).run

def SeedPool.step (pool : SeedPool Id) (turn : SeedTurn Id) : SeedPool Id :=
  Pool.step (World.handle target) (World.outside target) pool turn

def SeedPool.after : SeedPool Id :=
  Pool.after (World.handle target) (World.outside target)
    (SeedPool.start bundled target stamps files) turns

/-- The target after some turns. -/
def targetAfter : Option Entry × Option (List UInt8) :=
  let dir := (SeedPool.after bundled target stamps files turns).state.files
  (dir.entry target, dir.contents target)

/-- After some turns there is nothing at the target, and after one more, of a
run, there is. -/
def Publishes (id : Id) (choice : Choice) : Prop :=
  (targetAfter bundled target stamps files turns).1 = none ∧
    (targetAfter bundled target stamps files
      (turns ++ [.advance id choice])).1 ≠ none

variable {bundled target stamps files turns}

theorem SeedPool.after_snoc (turn : SeedTurn Id) :
    SeedPool.after bundled target stamps files (turns ++ [turn]) =
      SeedPool.step target (SeedPool.after bundled target stamps files turns)
        turn :=
  Pool.after_snoc _ _ _ _ _

theorem Act.apply_entry {act : Act} {dir : Directory String}
    (occupied : dir.entry target ≠ none) :
    (act.apply target dir).entry target = dir.entry target := by
  cases named : dir.entry target with
  | none => exact absurd named occupied
  | some entry =>
      cases act with
      | createFile node => simp only [Act.apply, named]
      | createOther kind => simp only [Act.apply, named]
      | edit node =>
          cases entry with
          | file inode => simp only [Act.apply, named, edit_entry]
          | directory => simp only [Act.apply, named]
          | symlink => simp only [Act.apply, named]
          | special => simp only [Act.apply, named]

/-- What a run has to itself the others at the target leave alone. -/
theorem Act.apply_sole {act : Act} {dir : Directory String} {tmpPath : String}
    {file : Nat} (differs : tmpPath ≠ target) (sole : dir.Sole tmpPath file) :
    (act.apply target dir).Sole tmpPath file ∧
      (act.apply target dir).node file = dir.node file := by
  unfold Act.apply
  split
  · refine ⟨sole.create differs.symm _, ?_⟩
    rw [create_node, Function.update_of_ne (Nat.ne_of_lt sole.known)]
  · rename_i kind _
    refine ⟨sole.of_entries (Function.update_of_ne differs _ _) ?_, rfl⟩
    intro other
    simp only [point, Function.update_apply]
    split
    · right
      intro same
      exact kind.2 file (Option.some.inj same)
    · exact .inl rfl
  · rename_i inode named
    have apart : file ≠ inode := by
      rintro rfl
      exact sole.elsewhere differs.symm named
    refine ⟨sole.of_entries rfl fun _ => .inl rfl, ?_⟩
    rw [edit_node, Function.update_of_ne apart]
  · exact ⟨sole, rfl⟩

omit [DecidableEq Id] in
theorem seed_compatible
    (distinct : Function.Injective fun id => tmpPathFor target (stamps id)) :
    Pool.Compatible (World.outside target)
      (fun id (before after : World Id) =>
        Relies target (tmpPathFor target (stamps id)) before after)
      (fun id => Seeds bundled target (tmpPathFor target (stamps id))) where
  refl _ _ := Relies.refl
  trans := Relies.trans
  others := by
    intro id other before after differs promised
    have apart : tmpPathFor target (stamps other) ≠
        tmpPathFor target (stamps id) :=
      fun same => differs (distinct same)
    exact {
      published := promised.published
      stays := fun occupied => (promised.discreet.kept occupied).1
      sole := fun file sole => promised.discreet.others _ file apart
        (tmpPathFor_ne target (stamps other)) sole }
  outsiders id act world := {
    published := fun _ member => member
    stays := Act.apply_entry
    sole := fun _ sole =>
      Act.apply_sole (tmpPathFor_ne target (stamps id)) sole }

theorem SeedPool.safe
    (distinct : Function.Injective fun id => tmpPathFor target (stamps id))
    (turns : List (SeedTurn Id)) :
    (SeedPool.after bundled target stamps files turns).Safe
      (World.handle target)
      (fun id => Relies target (tmpPathFor target (stamps id)))
      (fun id => Seeds bundled target (tmpPathFor target (stamps id)))
      (fun id => Program.settle (Seeded target id) fun _ _ => True) := by
  refine Pool.Safe.after (seed_compatible distinct) ?_ turns
  intro id
  have sound : SeedSound bundled target (tmpPathFor target (stamps id)) id
      (Seeded target id)
      (seedToolReactions bundled target (tmpPathFor target (stamps id)))
      (SeedPool.start bundled target stamps files).state :=
    seedToolReactions_sound (tmpPathFor_ne target (stamps id))
  exact sound

/-- One more turn of a run keeps what it promises. -/
theorem SeedPool.advance
    (distinct : Function.Injective fun id => tmpPathFor target (stamps id))
    (turns : List (SeedTurn Id)) (id : Id) (choice : Choice) :
    Discreet bundled target (tmpPathFor target (stamps id))
      (SeedPool.after bundled target stamps files turns).state.files
      (SeedPool.after bundled target stamps files
        (turns ++ [.advance id choice])).state.files := by
  rw [SeedPool.after_snoc]
  rcases (SeedPool.safe distinct turns).advance (seed_compatible distinct)
    id choice with ⟨_, _, still⟩ | promised
  · rw [SeedPool.step, still]
    exact Discreet.refl
  · exact promised.discreet

/-- Where there is something, others at most edit it. -/
theorem Act.apply_eq {act : Act} {dir : Directory String}
    (occupied : dir.entry target ≠ none) (gentle : ∀ node, act ≠ .edit node) :
    act.apply target dir = dir := by
  cases named : dir.entry target with
  | none => exact absurd named occupied
  | some entry =>
      cases act with
      | createFile node => simp only [Act.apply, named]
      | createOther kind => simp only [Act.apply, named]
      | edit node => exact absurd rfl (gentle node)

theorem targetAfter_outside (act : Act)
    (occupied : (targetAfter bundled target stamps files turns).1 ≠ none) :
    (targetAfter bundled target stamps files (turns ++ [.outside act])).1 =
      (targetAfter bundled target stamps files turns).1 ∧
    ((∀ node, act ≠ .edit node) →
      targetAfter bundled target stamps files (turns ++ [.outside act]) =
        targetAfter bundled target stamps files turns) := by
  unfold targetAfter at occupied ⊢
  rw [SeedPool.after_snoc]
  refine ⟨Act.apply_entry occupied, ?_⟩
  intro gentle
  simp only [SeedPool.step, Pool.step, World.outside,
    Act.apply_eq occupied gentle]

theorem targetAfter_advance
    (distinct : Function.Injective fun id => tmpPathFor target (stamps id))
    (id : Id) (choice : Choice)
    (occupied : (targetAfter bundled target stamps files turns).1 ≠ none) :
    targetAfter bundled target stamps files (turns ++ [.advance id choice]) =
      targetAfter bundled target stamps files turns := by
  obtain ⟨entry, contents⟩ :=
    (SeedPool.advance distinct turns id choice).kept occupied
  exact Prod.ext entry contents

/-- Once there is something at the target it stays there, and nobody but an
editor changes it. -/
theorem targetAfter_stays
    (distinct : Function.Injective fun id => tmpPathFor target (stamps id))
    (occupied : (targetAfter bundled target stamps files turns).1 ≠ none)
    (late : List (SeedTurn Id)) :
    (targetAfter bundled target stamps files (turns ++ late)).1 =
      (targetAfter bundled target stamps files turns).1 ∧
    ((∀ node, .outside (.edit node) ∉ late) →
      targetAfter bundled target stamps files (turns ++ late) =
        targetAfter bundled target stamps files turns) := by
  induction late using List.reverseRecOn with
  | nil => simp
  | append_singleton late turn induction =>
      obtain ⟨entry, whole⟩ := induction
      have occupied' :
          (targetAfter bundled target stamps files (turns ++ late)).1 ≠ none := by
        rw [entry]
        exact occupied
      rw [← List.append_assoc]
      cases turn with
      | advance id choice =>
          rw [targetAfter_advance distinct id choice occupied']
          refine ⟨entry, fun unedited => whole ?_⟩
          intro node member
          exact unedited node (List.mem_append_left _ member)
      | outside act =>
          obtain ⟨entry', whole'⟩ := targetAfter_outside act occupied'
          refine ⟨entry'.trans entry, fun unedited => ?_⟩
          rw [whole' ?_]
          · refine whole fun node member => ?_
            exact unedited node (List.mem_append_left _ member)
          · rintro node rfl
            exact unedited node (by simp)

/-- A turn makes a publisher exactly when the target appears at it. -/
theorem publishers_snoc (turn : SeedTurn Id) :
    (SeedPool.after bundled target stamps files
      (turns ++ [turn])).state.publishers =
      (SeedPool.after bundled target stamps files turns).state.publishers ∨
    ∃ id choice, turn = .advance id choice ∧
      Publishes bundled target stamps files turns id choice ∧
      (SeedPool.after bundled target stamps files
        (turns ++ [turn])).state.publishers =
        (SeedPool.after bundled target stamps files turns).state.publishers ++
          [id] := by
  unfold Publishes targetAfter
  cases turn with
  | outside act =>
      rw [SeedPool.after_snoc]
      exact .inl rfl
  | advance id choice =>
      simp only [SeedPool.after_snoc, SeedPool.step, Pool.step]
      split
      · exact .inl rfl
      · rename_i op resume running
        simp only [World.handle]
        split
        · rename_i appears
          refine .inr ⟨id, choice, rfl, ?_, rfl⟩
          rw [running]
          exact appears
        · exact .inl rfl

theorem publisher_published (turns : List (SeedTurn Id)) {id : Id}
    (member : id ∈
      (SeedPool.after bundled target stamps files turns).state.publishers) :
    ∃ early choice late, turns = early ++ .advance id choice :: late ∧
      Publishes bundled target stamps files early id choice := by
  induction turns using List.reverseRecOn with
  | nil => exact absurd member List.not_mem_nil
  | append_singleton turns turn induction =>
      have earlier (member : id ∈ (SeedPool.after bundled target stamps files
          turns).state.publishers) :
          ∃ early choice late,
            turns ++ [turn] = early ++ .advance id choice :: late ∧
            Publishes bundled target stamps files early id choice := by
        obtain ⟨early, choice, late, rfl, publishes⟩ := induction member
        exact ⟨early, choice, late ++ [turn], by simp, publishes⟩
      rcases publishers_snoc turn with same | ⟨other, choice, rfl, publishes, grown⟩
      · rw [same] at member
        exact earlier member
      · rw [grown] at member
        rcases List.mem_append.mp member with member | last
        · exact earlier member
        · obtain rfl := List.mem_singleton.mp last
          exact ⟨turns, choice, [], rfl, publishes⟩

/-- There is no publisher while there is nothing, and never a second one. -/
theorem publishers_once
    (distinct : Function.Injective fun id => tmpPathFor target (stamps id))
    (turns : List (SeedTurn Id)) :
    let publishers :=
      (SeedPool.after bundled target stamps files turns).state.publishers
    publishers = [] ∨ (∃ id, publishers = [id]) ∧
      (targetAfter bundled target stamps files turns).1 ≠ none := by
  induction turns using List.reverseRecOn with
  | nil => exact .inl rfl
  | append_singleton turns turn induction =>
      dsimp only at induction ⊢
      rcases publishers_snoc turn with same | ⟨id, choice, rfl, publishes, grown⟩
      · rw [same]
        refine induction.imp_right fun ⟨published, occupied⟩ => ?_
        refine ⟨published, ?_⟩
        rw [(targetAfter_stays distinct occupied [turn]).1]
        exact occupied
      · rw [grown]
        rcases induction with none | ⟨_, occupied⟩
        · exact .inr ⟨⟨id, by rw [none]; rfl⟩, publishes.2⟩
        · exact absurd publishes.1 occupied

/-- What seeding does to the target, after these turns and at the next. -/
structure NeverClobbers (bundled : List UInt8) (target : String)
    (stamps : Id → Stamp) (files : Directory String)
    (turns : List (SeedTurn Id)) : Prop where
  /-- No turn of a run changes what is at the target. -/
  kept : ∀ id choice, (targetAfter bundled target stamps files turns).1 ≠ none →
    targetAfter bundled target stamps files (turns ++ [.advance id choice]) =
      targetAfter bundled target stamps files turns
  /-- What a run puts there is complete from the first. -/
  complete : ∀ id choice, Publishes bundled target stamps files turns id choice →
    (targetAfter bundled target stamps files
      (turns ++ [.advance id choice])).2 = some bundled
  /-- It is there still, and complete unless somebody edited it. -/
  lasts : ∀ early id choice late,
    turns = early ++ .advance id choice :: late →
    Publishes bundled target stamps files early id choice →
    (targetAfter bundled target stamps files turns).1 =
      (targetAfter bundled target stamps files
        (early ++ [.advance id choice])).1 ∧
    ((∀ node, .outside (.edit node) ∉ late) →
      (targetAfter bundled target stamps files turns).2 = some bundled)
  wrote : ∀ id, (SeedPool.after bundled target stamps files turns).run id =
      .done (.ok .wrote) →
    ∃ early choice late, turns = early ++ .advance id choice :: late ∧
      Publishes bundled target stamps files early id choice
  once : ∀ id other outcome,
    (SeedPool.after bundled target stamps files turns).run id =
      .done (.ok .wrote) → other ≠ id →
    (SeedPool.after bundled target stamps files turns).run other =
      .done (.ok outcome) → outcome = .alreadyPresent
  present : ∀ id, (SeedPool.after bundled target stamps files turns).run id =
      .done (.ok .alreadyPresent) →
    ∃ inode, (targetAfter bundled target stamps files turns).1 =
      some (.file inode)

theorem Publishes.complete
    (distinct : Function.Injective fun id => tmpPathFor target (stamps id))
    {id : Id} {choice : Choice}
    (publishes : Publishes bundled target stamps files turns id choice) :
    (targetAfter bundled target stamps files
      (turns ++ [.advance id choice])).2 = some bundled := by
  rcases (SeedPool.advance distinct turns id choice).appears publishes.1 with
    vacant | complete
  · exact absurd vacant publishes.2
  · exact complete

theorem seeding_never_clobbers (bundled : List UInt8) (target : String)
    (stamps : Id → Stamp)
    (distinct : Function.Injective fun id => tmpPathFor target (stamps id))
    (files : Directory String) (turns : List (SeedTurn Id)) :
    NeverClobbers bundled target stamps files turns := by
  have result {id : Id} {outcome : SeedOutcome}
      (finished : (SeedPool.after bundled target stamps files turns).run id =
        .done (.ok outcome)) :
      Seeded target id outcome
        (SeedPool.after bundled target stamps files turns).state :=
    (SeedPool.safe distinct turns).result (seed_compatible distinct) finished
  constructor
  · intro id choice occupied
    exact targetAfter_advance distinct id choice occupied
  · intro id choice publishes
    exact publishes.complete distinct
  · rintro early id choice late rfl publishes
    obtain ⟨entry, whole⟩ := targetAfter_stays distinct publishes.2 late
    rw [List.append_assoc, List.singleton_append] at entry whole
    refine ⟨entry, fun unedited => ?_⟩
    rw [whole unedited]
    exact publishes.complete distinct
  · intro id finished
    exact publisher_published turns (result finished)
  · intro id other outcome finished differs finished'
    cases outcome with
    | alreadyPresent => rfl
    | wrote =>
        have first : id ∈ _ := result finished
        have second : other ∈ _ := result finished'
        rcases publishers_once distinct turns with none | ⟨⟨only, same⟩, _⟩
        · rw [none] at first
          exact absurd first List.not_mem_nil
        · rw [same, List.mem_singleton] at first second
          exact absurd (second.trans first.symm) differs
  · intro id finished
    exact result finished

/-- Two runs, the second held up until the first has published. -/
theorem seeding_never_clobbers_two :
    let choice : Choice := { fails := false, taken := 4, clock := none }
    NeverClobbers [91, 93] "tool-reactions.toml"
      (fun late : Bool => { pid := late.toNat, nanos := 0, seq := 0 }) .empty
      (.advance true choice :: List.replicate 8 (.advance false choice) ++
        List.replicate 8 (.advance true choice)) := by
  intro choice
  refine seeding_never_clobbers _ _ _ ?_ _ _
  unfold Function.Injective
  decide

end Pool

end Bowerbird.Adapter.Install
