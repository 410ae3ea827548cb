import Bowerbird.Adapter.Settings
import Bowerbird.Foundation.Machine
import Bowerbird.Protocol.JsonText

namespace Bowerbird.Adapter.Install

open Protocol Foundation Settings

/-! Install and uninstall: read, edit, write a temporary file, look whether the
target is still the one it was, and rename.  Each syscall is a step of its own,
and between any two another process may replace the target. -/

inductive Job where
  | install
  | uninstall
  deriving Repr, DecidableEq

inductive InstallError where
  | settingsRead
  | settingsParse (source : String)
  | settingsNotObject
  | settingsWriteTmp
  | settingsRename
  | settingsAtomicRenameRace (attempts : Nat)
  deriving Repr, DecidableEq

inductive Outcome where
  | installed (created : Bool) (hookKindsAdded : List String)
      (legacyUpgradeDetected : Bool)
  | uninstalled (existed : Bool) (hookKindsRemoved : List String)
  deriving Repr, DecidableEq

/-- The waits between attempts, in milliseconds. -/
def retryBackoffs : List Nat :=
  [25, 50, 100, 200]

structure File where
  inode : Nat
  mtime : Option Nat
  contents : List UInt8
  deriving Repr, DecidableEq

structure Identity where
  inode : Nat
  mtime : Option Nat
  size : Nat
  deriving Repr, DecidableEq

def File.identity (file : File) : Identity :=
  { inode := file.inode, mtime := file.mtime, size := file.contents.length }

/-- A file that cannot be looked at is as one that is not there. -/
def identityAt (failed : Bool) (path : Option File) : Option Identity :=
  if failed then none else path.map File.identity

/-- What an attempt has read, what it would write and what it would report. -/
structure Draft where
  read : Option (List UInt8)
  value : Json.Value
  outcome : Outcome

inductive Phase where
  | reading (attempt : Nat)
  | drafted (attempt : Nat) (draft : Draft)
  | statting (attempt : Nat) (draft : Draft)
  | based (attempt : Nat) (draft : Draft) (preRename : Option Identity)
  | written (attempt : Nat) (draft : Draft) (preRename : Option Identity)
  | checked (attempt : Nat) (draft : Draft)
  | sleeping (attempt : Nat)
  | wrote (attempt : Nat) (draft : Draft)
  | idle (outcome : Outcome)
  | failed (error : InstallError)

/-- `replaced` remembers the file that another process put in place, and where
the run was then. -/
structure State where
  path : Option File
  tmp : Option File
  phase : Phase
  created : Bool
  replaced : Option (File × Phase)

def State.boot (path : Option File) : State :=
  { path, tmp := none, phase := .reading 0, created := false, replaced := none }

inductive Label where
  | read (failed : Bool)
  | createDir (failed : Bool)
  | statBaseline (failed : Bool)
  | writeTmp (file : File)
  | failTmp (left : Option File)
  | check (failed : Bool)
  | rename (failed : Bool)
  | wake
  | replace (file : File)
  deriving Repr, DecidableEq

section Steps

variable (readJson : List UInt8 → Except String Json.Value) (job : Job)

def parseSettings (contents : List UInt8) :
    Except InstallError (List (String × Json.Value)) :=
  match readJson contents with
  | .error source => .error (.settingsParse source)
  | .ok (.object fields) => .ok fields
  | .ok _ => .error .settingsNotObject

/-- A missing file is an empty document to install, and nothing to uninstall. -/
def readFields (contents : Option (List UInt8)) :
    Except InstallError (Option (List (String × Json.Value))) :=
  match contents with
  | some contents => (parseSettings readJson contents).map some
  | none => .ok (if job = .install then some [] else none)

def revise (fields : List (String × Json.Value)) : Json.Value :=
  match job with
  | .install => .object (mergeInstallInto fields).1
  | .uninstall => .object (stripInstallFrom fields).1

def report (created : Bool) (fields : List (String × Json.Value)) : Outcome :=
  match job with
  | .install =>
      let added := (mergeInstallInto fields).2
      .installed created added
        (hasOnlyLegacyHooks fields && added.contains "UserPromptSubmit")
  | .uninstall => .uninstalled true (stripInstallFrom fields).2

def printed (value : Json.Value) : List UInt8 :=
  Utf8.encode (String.ofList (Json.printPretty 0 value)) ++ [Utf8.newline]

/-- The read of an attempt, from the contents found to the next phase. -/
def afterRead (attempt : Nat) (created : Bool)
    (contents : Option (List UInt8)) : Phase :=
  match readFields readJson job contents with
  | .error error => .failed error
  | .ok none => .idle (.uninstalled false [])
  | .ok (some fields) =>
      .drafted attempt {
        read := contents
        value := revise job fields
        outcome := report job created fields }

/-- Only the first attempt says whether the file was there. -/
def createdBy (attempt : Nat) (created : Bool) (path : Option File) : Bool :=
  if attempt = 0 then path.isNone else created

def afterChange (attempt : Nat) : Phase :=
  if attempt < retryBackoffs.length then .sleeping attempt
  else .failed (.settingsAtomicRenameRace (retryBackoffs.length + 1))

def isFresh (file : File) (other : Option File) : Bool :=
  other.all (·.inode ≠ file.inode)

def step (state : State) : Label → Option State
  | .read failed =>
      match state.phase with
      | .reading attempt =>
          if failed then some { state with phase := .failed .settingsRead }
          else
            let created := createdBy attempt state.created state.path
            some { state with
              created
              phase := afterRead readJson job attempt created
                (state.path.map File.contents) }
      | _ => none
  | .createDir failed =>
      match state.phase with
      | .drafted attempt draft =>
          some { state with
            phase := if failed then .failed .settingsWriteTmp
              else .statting attempt draft }
      | _ => none
  | .statBaseline failed =>
      match state.phase with
      | .statting attempt draft =>
          some { state with
            phase := .based attempt draft (identityAt failed state.path) }
      | _ => none
  | .writeTmp file =>
      match state.phase with
      | .based attempt draft preRename =>
          if file.contents = printed draft.value ∧ isFresh file state.path then
            some { state with
              tmp := some file
              phase := .written attempt draft preRename }
          else none
      | _ => none
  | .failTmp left =>
      match state.phase with
      | .based _ _ _ =>
          some { state with
            tmp := left
            phase := .failed .settingsWriteTmp }
      | _ => none
  | .check failed =>
      match state.phase with
      | .written attempt draft preRename =>
          if preRename ≠ identityAt failed state.path then
            some { state with tmp := none, phase := afterChange attempt }
          else some { state with phase := .checked attempt draft }
      | _ => none
  | .rename failed =>
      match state.phase with
      | .checked attempt draft =>
          if failed then some { state with phase := .failed .settingsRename }
          else
            some { state with
              path := state.tmp
              tmp := none
              phase := .wrote attempt draft }
      | _ => none
  | .wake =>
      match state.phase with
      | .sleeping attempt =>
          some { state with phase := .reading (attempt + 1) }
      | _ => none
  | .replace file =>
      if state.replaced.isNone ∧ isFresh file state.path ∧
          isFresh file state.tmp then
        some { state with
          path := some file
          replaced := some (file, state.phase) }
      else none

def machine : Machine State Label Empty where
  step state label := (step readJson job state label).map (·, [])

/-- What one step can do. -/
inductive Moves (state : State) : Label → State → Prop
  | read {attempt : Nat} (phase : state.phase = .reading attempt)
      (created : Bool) :
      Moves state (.read false) { state with
        created
        phase := afterRead readJson job attempt created
          (state.path.map File.contents) }
  | create {attempt : Nat} {draft : Draft}
      (phase : state.phase = .drafted attempt draft) :
      Moves state (.createDir false)
        { state with phase := .statting attempt draft }
  | stat {attempt : Nat} {draft : Draft} (failed : Bool)
      (phase : state.phase = .statting attempt draft) :
      Moves state (.statBaseline failed) { state with
        phase := .based attempt draft (identityAt failed state.path) }
  | write {attempt : Nat} {draft : Draft} {preRename : Option Identity}
      {file : File} (phase : state.phase = .based attempt draft preRename)
      (contents : file.contents = printed draft.value) :
      Moves state (.writeTmp file) { state with
        tmp := some file
        phase := .written attempt draft preRename }
  | retreat {attempt : Nat} {draft : Draft} {preRename : Option Identity}
      (failed : Bool) (phase : state.phase = .written attempt draft preRename) :
      Moves state (.check failed)
        { state with tmp := none, phase := afterChange attempt }
  | check {attempt : Nat} {draft : Draft} {preRename : Option Identity}
      {failed : Bool} (phase : state.phase = .written attempt draft preRename)
      (same : preRename = identityAt failed state.path) :
      Moves state (.check failed) { state with phase := .checked attempt draft }
  | rename {attempt : Nat} {draft : Draft}
      (phase : state.phase = .checked attempt draft) :
      Moves state (.rename false) { state with
        path := state.tmp
        tmp := none
        phase := .wrote attempt draft }
  | wake {attempt : Nat} (phase : state.phase = .sleeping attempt) :
      Moves state .wake { state with phase := .reading (attempt + 1) }
  | fail {label : Label} {error : InstallError} (left : Option File)
      (running : ∀ attempt draft, state.phase ≠ .wrote attempt draft) :
      Moves state label { state with tmp := left, phase := .failed error }
  | replace {file : File} (once : state.replaced = none)
      (fresh : isFresh file state.path = true) :
      Moves state (.replace file) { state with
        path := some file
        replaced := some (file, state.phase) }

variable {readJson job}

theorem step_moves {state next : State} {label : Label}
    (taken : step readJson job state label = some next) :
    Moves readJson job state label next := by
  cases label with
  | read failed =>
      simp only [step] at taken
      split at taken
      · rename_i attempt phase
        split at taken
        · cases taken
          refine .fail state.tmp ?_
          rw [phase]
          intro _ _ other
          cases other
        · rename_i done
          cases taken
          rw [Bool.not_eq_true] at done
          subst done
          exact .read phase _
      · cases taken
  | createDir failed =>
      simp only [step] at taken
      split at taken
      · rename_i attempt draft phase
        cases taken
        cases failed with
        | false => exact .create phase
        | true =>
            refine .fail state.tmp ?_
            rw [phase]
            intro _ _ other
            cases other
      · cases taken
  | statBaseline failed =>
      simp only [step] at taken
      split at taken
      · rename_i phase
        cases taken
        exact .stat failed phase
      · cases taken
  | writeTmp file =>
      simp only [step] at taken
      split at taken
      · rename_i phase
        split at taken
        · rename_i fits
          cases taken
          exact .write phase fits.1
        · cases taken
      · cases taken
  | failTmp left =>
      simp only [step] at taken
      split at taken
      · rename_i phase
        cases taken
        refine .fail left ?_
        rw [phase]
        intro _ _ other
        cases other
      · cases taken
  | check failed =>
      simp only [step] at taken
      split at taken
      · rename_i phase
        split at taken
        · cases taken
          exact .retreat failed phase
        · rename_i same
          cases taken
          exact .check phase (not_not.mp same)
      · cases taken
  | rename failed =>
      simp only [step] at taken
      split at taken
      · rename_i phase
        split at taken
        · cases taken
          refine .fail state.tmp ?_
          rw [phase]
          intro _ _ other
          cases other
        · rename_i done
          cases taken
          rw [Bool.not_eq_true] at done
          subst done
          exact .rename phase
      · cases taken
  | wake =>
      simp only [step] at taken
      split at taken
      · rename_i phase
        cases taken
        exact .wake phase
      · cases taken
  | replace file =>
      simp only [step] at taken
      split at taken
      · rename_i free
        cases taken
        exact .replace (Option.isNone_iff_eq_none.mp free.1) free.2.1
      · cases taken

end Steps

end Bowerbird.Adapter.Install
