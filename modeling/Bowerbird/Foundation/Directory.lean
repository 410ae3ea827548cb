import Mathlib.Logic.Function.Basic

namespace Bowerbird.Foundation

/-- A variable of the environment, if it is set to something. -/
def nonEmpty (value : Option String) : Option String :=
  value.filter (· ≠ "")

/-- A path below a directory. -/
def joinPath (directory path : String) : String :=
  if directory.toList.getLast? = some '/' then directory ++ path
  else directory ++ "/" ++ path

/-! One directory of a file system: its names, what they stand for, and what is
behind each inode. -/

inductive Entry where
  | file (inode : Nat)
  | directory
  | symlink
  | special
  deriving Repr, DecidableEq

structure Node where
  contents : List UInt8
  mtime : Option Nat
  deriving Repr, DecidableEq

/-- `next` is the first inode not given out. -/
structure Directory (Name : Type) where
  entry : Name → Option Entry
  node : Nat → Node
  next : Nat
  known : ∀ name inode, entry name = some (.file inode) → inode < next

namespace Directory

variable {Name : Type}

def contents (dir : Directory Name) (name : Name) : Option (List UInt8) :=
  match dir.entry name with
  | some (.file inode) => some (dir.node inode).contents
  | _ => none

theorem contents_file {dir : Directory Name} {name : Name} {inode : Nat}
    (named : dir.entry name = some (.file inode)) :
    dir.contents name = some (dir.node inode).contents := by
  rw [contents, named]

theorem contents_congr {before after : Directory Name} {name : Name}
    (entry : after.entry name = before.entry name)
    (node : ∀ inode, before.entry name = some (.file inode) →
      (after.node inode).contents = (before.node inode).contents) :
    after.contents name = before.contents name := by
  rw [contents, contents, entry]
  cases found : before.entry name with
  | none => rfl
  | some kind =>
      cases kind with
      | file inode => exact congrArg some (node inode found)
      | directory => rfl
      | symlink => rfl
      | special => rfl

def empty : Directory Name where
  entry _ := none
  node _ := { contents := [], mtime := none }
  next := 0
  known _ _ named := by cases named

/-! What can be done to a directory. -/

def edit (dir : Directory Name) (inode : Nat) (node : Node) :
    Directory Name where
  entry := dir.entry
  node := Function.update dir.node inode node
  next := dir.next
  known := dir.known

@[simp] theorem edit_entry (dir : Directory Name) (inode : Nat) (node : Node) :
    (dir.edit inode node).entry = dir.entry :=
  rfl

@[simp] theorem edit_node (dir : Directory Name) (inode : Nat) (node : Node) :
    (dir.edit inode node).node = Function.update dir.node inode node :=
  rfl

@[simp] theorem edit_next (dir : Directory Name) (inode : Nat) (node : Node) :
    (dir.edit inode node).next = dir.next :=
  rfl

/-- The name stands for the inode, and no other name does. -/
structure Sole (dir : Directory Name) (name : Name) (inode : Nat) : Prop where
  named : dir.entry name = some (.file inode)
  only : ∀ other, dir.entry other = some (.file inode) → other = name

namespace Sole

variable {dir : Directory Name} {name other : Name} {inode : Nat}

theorem known (sole : dir.Sole name inode) : inode < dir.next :=
  dir.known name inode sole.named

theorem elsewhere (sole : dir.Sole name inode) (differs : other ≠ name) :
    dir.entry other ≠ some (.file inode) := by
  intro named
  exact differs (sole.only other named)

/-- It stays so when the names that are changed are others and come to stand for
other inodes. -/
theorem of_entries {later : Directory Name} (sole : dir.Sole name inode)
    (kept : later.entry name = dir.entry name)
    (rest : ∀ other, later.entry other = dir.entry other ∨
      later.entry other ≠ some (.file inode)) :
    later.Sole name inode := by
  refine ⟨kept.trans sole.named, ?_⟩
  intro other named
  rcases rest other with same | differs
  · exact sole.only other (same.symm.trans named)
  · exact absurd named differs

end Sole

variable [DecidableEq Name]

def create (dir : Directory Name) (name : Name) (node : Node) :
    Directory Name where
  entry := Function.update dir.entry name (some (.file dir.next))
  node := Function.update dir.node dir.next node
  next := dir.next + 1
  known other inode named := by
    rw [Function.update_apply] at named
    split at named
    · cases named
      exact Nat.lt_succ_self _
    · exact Nat.lt_succ_of_lt (dir.known other inode named)

/-- Let a name stand for something else. -/
def point (dir : Directory Name) (name : Name) (entry : Option Entry)
    (known : ∀ inode, entry = some (.file inode) → inode < dir.next) :
    Directory Name where
  entry := Function.update dir.entry name entry
  node := dir.node
  next := dir.next
  known other inode named := by
    rw [Function.update_apply] at named
    split at named
    · exact known inode named
    · exact dir.known other inode named

def link (dir : Directory Name) (original name : Name) : Directory Name :=
  dir.point name (dir.entry original) (dir.known original)

def unlink (dir : Directory Name) (name : Name) : Directory Name :=
  dir.point name none fun _ named => by cases named

def move (dir : Directory Name) (source target : Name) : Directory Name :=
  (dir.link source target).unlink source

section Operations

variable (dir : Directory Name) (name : Name)

@[simp] theorem create_entry (node : Node) :
    (dir.create name node).entry =
      Function.update dir.entry name (some (.file dir.next)) :=
  rfl

@[simp] theorem create_node (node : Node) :
    (dir.create name node).node = Function.update dir.node dir.next node :=
  rfl

@[simp] theorem create_next (node : Node) :
    (dir.create name node).next = dir.next + 1 :=
  rfl

@[simp] theorem link_entry (original : Name) :
    (dir.link original name).entry =
      Function.update dir.entry name (dir.entry original) :=
  rfl

@[simp] theorem link_node (original : Name) :
    (dir.link original name).node = dir.node :=
  rfl

@[simp] theorem link_next (original : Name) :
    (dir.link original name).next = dir.next :=
  rfl

@[simp] theorem unlink_entry :
    (dir.unlink name).entry = Function.update dir.entry name none :=
  rfl

@[simp] theorem unlink_node : (dir.unlink name).node = dir.node :=
  rfl

@[simp] theorem unlink_next : (dir.unlink name).next = dir.next :=
  rfl

@[simp] theorem move_entry (source target : Name) :
    (dir.move source target).entry =
      Function.update (Function.update dir.entry target (dir.entry source))
        source none :=
  rfl

@[simp] theorem move_node (source target : Name) :
    (dir.move source target).node = dir.node :=
  rfl

@[simp] theorem move_next (source target : Name) :
    (dir.move source target).next = dir.next :=
  rfl

end Operations

namespace Sole

variable {dir : Directory Name} {name other : Name} {inode : Nat}

theorem of_create (dir : Directory Name) (name : Name) (node : Node) :
    (dir.create name node).Sole name dir.next := by
  refine ⟨by simp, ?_⟩
  intro other named
  rw [create_entry, Function.update_apply] at named
  split at named
  · assumption
  · exact absurd (dir.known other dir.next named) (Nat.lt_irrefl _)

theorem create (sole : dir.Sole name inode) (differs : other ≠ name)
    (node : Node) : (dir.create other node).Sole name inode := by
  refine sole.of_entries (by simp [differs.symm]) ?_
  intro third
  rw [create_entry, Function.update_apply]
  split
  · right
    intro same
    cases same
    exact absurd sole.known (Nat.lt_irrefl _)
  · exact .inl rfl

theorem unlink (sole : dir.Sole name inode) (differs : other ≠ name) :
    (dir.unlink other).Sole name inode := by
  refine sole.of_entries (by simp [differs.symm]) ?_
  intro third
  rw [unlink_entry, Function.update_apply]
  split
  · exact .inr (by simp)
  · exact .inl rfl

/-- A moved file has one name, like before. -/
theorem move {target : Name} (sole : dir.Sole name inode)
    (differs : target ≠ name) : (dir.move name target).Sole target inode := by
  refine ⟨by simp [differs, sole.named], ?_⟩
  intro other named
  by_contra away
  rw [move_entry, Function.update_apply] at named
  split at named
  · cases named
  · rename_i moved
    rw [Function.update_of_ne away] at named
    exact moved (sole.only other named)

end Sole

/-! The calls, and their answers.  The environment decides whether a call fails,
how much of a write is taken, and what the clock shows. -/

inductive ErrorKind where
  | notFound
  | alreadyExists
  | other
  deriving Repr, DecidableEq

structure Metadata where
  inode : Nat
  mtime : Option Nat
  size : Nat
  deriving Repr, DecidableEq

inductive Call (Name : Type) where
  | read (name : Name)
  | metadata (name : Name)
  | symlinkMetadata (name : Name)
  | createDirAll
  | openTruncate (name : Name)
  | openNew (name : Name)
  | write (inode : Nat) (bytes : List UInt8)
  | syncName (name : Name)
  | sync (inode : Nat)
  | hardLink (original name : Name)
  | rename (source target : Name)
  | remove (name : Name)
  | syncDir
  | sleep (millis : Nat)
  deriving Repr, DecidableEq

@[reducible] def Call.Value : Call Name → Type
  | .read _ => List UInt8
  | .metadata _ => Metadata
  | .symlinkMetadata _ => Entry
  | .openTruncate _ | .openNew _ | .write _ _ => Nat
  | _ => Unit

abbrev Call.Answer (call : Call Name) : Type :=
  Except ErrorKind call.Value

structure Choice where
  fails : Bool
  taken : Nat
  clock : Option Nat
  deriving Repr, DecidableEq

/-- A call that does not fail of itself.  Links, directories and special files
are told apart and not looked into. -/
def perform (dir : Directory Name) (choice : Choice) :
    (call : Call Name) → call.Answer × Directory Name
  | .read name =>
      match dir.entry name with
      | none => (.error .notFound, dir)
      | some (.file inode) => (.ok (dir.node inode).contents, dir)
      | some _ => (.error .other, dir)
  | .metadata name =>
      match dir.entry name with
      | none => (.error .notFound, dir)
      | some (.file inode) =>
          let node := dir.node inode
          (.ok { inode, mtime := node.mtime, size := node.contents.length }, dir)
      | some _ => (.error .other, dir)
  | .symlinkMetadata name =>
      match dir.entry name with
      | none => (.error .notFound, dir)
      | some entry => (.ok entry, dir)
  | .createDirAll => (.ok (), dir)
  | .openTruncate name =>
      match dir.entry name with
      | none =>
          (.ok dir.next,
            dir.create name { contents := [], mtime := choice.clock })
      | some (.file inode) =>
          (.ok inode, dir.edit inode { contents := [], mtime := choice.clock })
      | some _ => (.error .other, dir)
  | .openNew name =>
      match dir.entry name with
      | none =>
          (.ok dir.next,
            dir.create name { contents := [], mtime := choice.clock })
      | some _ => (.error .alreadyExists, dir)
  | .write inode bytes =>
      let taken := bytes.take choice.taken
      (.ok taken.length, dir.edit inode {
        contents := (dir.node inode).contents ++ taken
        mtime := choice.clock })
  | .syncName _ => (.ok (), dir)
  | .sync _ => (.ok (), dir)
  | .hardLink original name =>
      match dir.entry name, dir.entry original with
      | some _, _ => (.error .alreadyExists, dir)
      | none, some (.file _) => (.ok (), dir.link original name)
      | none, some _ => (.error .other, dir)
      | none, none => (.error .notFound, dir)
  | .rename source target =>
      match dir.entry source, dir.entry target with
      | none, _ => (.error .notFound, dir)
      | some .directory, _ => (.error .other, dir)
      | some _, some .directory => (.error .other, dir)
      | some (.file inode), some (.file other) =>
          (.ok (), if inode = other then dir else dir.move source target)
      | some _, _ => (.ok (), dir.move source target)
  | .remove name =>
      match dir.entry name with
      | none => (.error .notFound, dir)
      | some .directory => (.error .other, dir)
      | some _ => (.ok (), dir.unlink name)
  | .syncDir => (.ok (), dir)
  | .sleep _ => (.ok (), dir)

def handle (choice : Choice) (call : Call Name) (dir : Directory Name) :
    call.Answer × Directory Name :=
  if choice.fails then (.error .other, dir) else dir.perform choice call

section Handle

variable {dir : Directory Name} {choice : Choice}

/-- The calls that leave the names and the files as they are. -/
def Call.isIdle : Call Name → Bool
  | .openTruncate _ | .openNew _ | .write _ _ | .hardLink _ _ | .rename _ _
  | .remove _ => false
  | _ => true

theorem handle_idle {call : Call Name} (idle : call.isIdle = true) :
    (handle choice call dir).2 = dir := by
  unfold handle
  split
  · rfl
  · cases call with
    | read name => simp only [perform]; split <;> rfl
    | metadata name => simp only [perform]; split <;> rfl
    | symlinkMetadata name => simp only [perform]; split <;> rfl
    | openTruncate name => cases idle
    | openNew name => cases idle
    | write inode bytes => cases idle
    | hardLink original name => cases idle
    | rename source target => cases idle
    | remove name => cases idle
    | _ => rfl

theorem handle_read (name : Name) :
    (∃ error, (handle choice (.read name) dir).1 = .error error ∧
      (error = .notFound → dir.entry name = none)) ∨
    ∃ bytes, (handle choice (.read name) dir).1 = .ok bytes ∧
      dir.contents name = some bytes := by
  unfold handle
  split
  · exact .inl ⟨.other, rfl, fun same => by cases same⟩
  · simp only [perform]
    split
    · rename_i vacant
      exact .inl ⟨.notFound, rfl, fun _ => vacant⟩
    · rename_i inode named
      exact .inr ⟨_, rfl, contents_file named⟩
    · exact .inl ⟨.other, rfl, fun same => by cases same⟩

theorem handle_symlinkMetadata (name : Name) :
    (∃ error, (handle choice (.symlinkMetadata name) dir).1 = .error error) ∨
    ∃ entry, (handle choice (.symlinkMetadata name) dir).1 = .ok entry ∧
      dir.entry name = some entry := by
  unfold handle
  split
  · exact .inl ⟨_, rfl⟩
  · simp only [perform]
    split
    · exact .inl ⟨_, rfl⟩
    · rename_i entry named
      exact .inr ⟨entry, rfl, named⟩

theorem handle_openTruncate (name : Name) :
    (∃ error, handle choice (.openTruncate name) dir = (.error error, dir)) ∨
    (dir.entry name = none ∧ handle choice (.openTruncate name) dir =
      (.ok dir.next,
        dir.create name { contents := [], mtime := choice.clock })) ∨
    ∃ inode, dir.entry name = some (.file inode) ∧
      handle choice (.openTruncate name) dir =
        (.ok inode,
          dir.edit inode { contents := [], mtime := choice.clock }) := by
  unfold handle
  split
  · exact .inl ⟨_, rfl⟩
  · simp only [perform]
    split
    · rename_i vacant
      exact .inr (.inl ⟨vacant, rfl⟩)
    · rename_i inode named
      exact .inr (.inr ⟨inode, named, rfl⟩)
    · exact .inl ⟨_, rfl⟩

theorem handle_openNew (name : Name) :
    (∃ error, handle choice (.openNew name) dir = (.error error, dir)) ∨
    dir.entry name = none ∧ handle choice (.openNew name) dir =
      (.ok dir.next,
        dir.create name { contents := [], mtime := choice.clock }) := by
  unfold handle
  split
  · exact .inl ⟨_, rfl⟩
  · simp only [perform]
    split
    · rename_i vacant
      exact .inr ⟨vacant, rfl⟩
    · exact .inl ⟨_, rfl⟩

/-- A write takes some of the bytes, from the first on. -/
theorem handle_write (inode : Nat) (bytes : List UInt8) :
    (∃ error, handle choice (.write inode bytes) dir = (.error error, dir)) ∨
    ∃ taken ≤ bytes.length, handle choice (.write inode bytes) dir =
      (.ok taken, dir.edit inode {
        contents := (dir.node inode).contents ++ bytes.take taken
        mtime := choice.clock }) := by
  unfold handle
  split
  · exact .inl ⟨_, rfl⟩
  · refine .inr ⟨(bytes.take choice.taken).length, ?_, ?_⟩
    · exact (List.take_sublist _ _).length_le
    · have same : bytes.take (bytes.take choice.taken).length =
          bytes.take choice.taken := by
        rw [List.length_take, ← List.take_take, List.take_length]
      rw [same]
      rfl

theorem handle_hardLink (original name : Name) :
    (∃ error, handle choice (.hardLink original name) dir =
      (.error error, dir)) ∨
    ∃ inode, dir.entry original = some (.file inode) ∧
      dir.entry name = none ∧ handle choice (.hardLink original name) dir =
        (.ok (), dir.link original name) := by
  unfold handle
  split
  · exact .inl ⟨_, rfl⟩
  · simp only [perform]
    split
    · exact .inl ⟨_, rfl⟩
    · rename_i inode vacant named
      exact .inr ⟨inode, named, vacant, rfl⟩
    · exact .inl ⟨_, rfl⟩
    · exact .inl ⟨_, rfl⟩

theorem handle_rename (source target : Name) :
    (∃ error, handle choice (.rename source target) dir =
      (.error error, dir)) ∨
    (∃ inode, dir.entry source = some (.file inode) ∧
      dir.entry target = some (.file inode) ∧
      handle choice (.rename source target) dir = (.ok (), dir)) ∨
    handle choice (.rename source target) dir =
      (.ok (), dir.move source target) := by
  unfold handle
  split
  · exact .inl ⟨_, rfl⟩
  · simp only [perform]
    split
    · exact .inl ⟨_, rfl⟩
    · exact .inl ⟨_, rfl⟩
    · exact .inl ⟨_, rfl⟩
    · rename_i inode other sourceNamed targetNamed
      by_cases same : inode = other
      · subst same
        exact .inr (.inl ⟨inode, sourceNamed, targetNamed, by rw [if_pos rfl]⟩)
      · exact .inr (.inr (by rw [if_neg same]))
    · exact .inr (.inr rfl)

theorem handle_remove (name : Name) :
    (∃ error, handle choice (.remove name) dir = (.error error, dir)) ∨
    handle choice (.remove name) dir = (.ok (), dir.unlink name) := by
  unfold handle
  split
  · exact .inl ⟨_, rfl⟩
  · simp only [perform]
    split
    · exact .inl ⟨_, rfl⟩
    · exact .inl ⟨_, rfl⟩
    · exact .inr rfl

end Handle

end Directory

end Bowerbird.Foundation
