import Bowerbird.Adapter.Install
import Bowerbird.Foundation.FileProgram

namespace Bowerbird.Adapter.Install

open Protocol Foundation Foundation.Directory

/-! Install and uninstall call by call, with nobody else at the settings: every
call may fail, a write may take a part of its bytes, and the run may be killed
before any of its calls. -/

/-- What tells one temporary name from another. -/
structure Stamp where
  pid : Nat
  nanos : Nat
  seq : Nat
  deriving Repr, DecidableEq

def tmpPathFor (path : String) (stamp : Stamp) : String :=
  path ++
    s!".bowerbird-install.{stamp.pid}-{stamp.nanos}-{stamp.seq}.tmp"

theorem tmpPathFor_ne (path : String) (stamp : Stamp) :
    tmpPathFor path stamp ≠ path := by
  intro same
  have lengths := congrArg String.length same
  simp [tmpPathFor, String.length_append] at lengths

inductive WriteOutcome where
  | wrote
  | concurrentChange
  deriving Repr, DecidableEq

abbrev Running (Value : Type) : Type :=
  Action String InstallError Value

def statIdentity (path : String) : Running (Option Identity) := do
  match ← request (.metadata path) with
  | .ok found =>
      return some {
        inode := found.inode, mtime := found.mtime, size := found.size }
  | .error _ => return none

def serialized (value : Json.Value) : List UInt8 :=
  Utf8.encode (String.ofList (Json.printPretty 0 value))

def writePrettyJson (path : String) (value : Json.Value) : Running Unit := do
  let file ← attempt (.openTruncate path) .settingsWriteTmp
  writeAll file .settingsWriteTmp (serialized value)
  writeAll file .settingsWriteTmp [Utf8.newline]

def fsyncFile (path : String) : Running Unit :=
  attempt (.syncName path) .settingsWriteTmp

def atomicWrite (path : String) (stamp : Stamp) (value : Json.Value) :
    Running WriteOutcome := do
  attempt .createDirAll .settingsWriteTmp
  let preRename ← statIdentity path
  let tmpPath := tmpPathFor path stamp
  writePrettyJson tmpPath value
  fsyncFile tmpPath
  let postBaseline ← statIdentity path
  if preRename ≠ postBaseline then
    let _ ← request (.remove tmpPath)
    return .concurrentChange
  else
    attempt (.rename tmpPath path) .settingsRename
    let _ ← request .syncDir
    return .wrote

section Attempts

variable (readJson : List UInt8 → Except String Json.Value) (job : Job)
variable (path : String) (stamps : Nat → Stamp)

/-- The read of an attempt; no file is no contents. -/
def readContents : Running (Option (List UInt8)) := do
  match ← request (.read path) with
  | .ok bytes => return some bytes
  | .error .notFound => return none
  | .error _ => throw .settingsRead

/-- One attempt, with what follows it when another writer is noticed. -/
def runAttempt (attempt : Nat) (created : Bool)
    (again : Bool → Running Outcome) : Running Outcome := do
  let contents ← readContents path
  let created := if attempt = 0 then contents.isNone else created
  match readFields readJson job contents with
  | .error error => throw error
  | .ok none => return .uninstalled false []
  | .ok (some fields) =>
      match ← atomicWrite path (stamps attempt) (revise job fields) with
      | .wrote => return report job created fields
      | .concurrentChange => again created

def runAttempts (attempt : Nat) (created : Bool) :
    List Nat → Running Outcome
  | [] =>
      runAttempt readJson job path stamps attempt created fun _ =>
        throw (.settingsAtomicRenameRace (retryBackoffs.length + 1))
  | backoff :: rest =>
      runAttempt readJson job path stamps attempt created fun created => do
        let _ ← request (.sleep backoff)
        runAttempts (attempt + 1) created rest

/-- `install` or `uninstall`, by the job. -/
def settingsProgram : Running Outcome :=
  runAttempts readJson job path stamps 0 false retryBackoffs

end Attempts

/-! What the calls do to the settings and to the temporary file. -/

section Files

variable (path : String) (old : Option (List UInt8))

/-- The settings are as they were, under one name. -/
structure Intact (dir : Directory String) : Prop where
  contents : dir.contents path = old
  plain : dir.entry path = none ∨ ∃ inode, dir.Sole path inode

/-- The temporary file is open, apart from the settings, and holds what has been
written. -/
structure Held (tmpPath : String) (file : Nat) (written : List UInt8)
    (dir : Directory String) : Prop where
  intact : Intact path old dir
  named : dir.entry tmpPath = some (.file file)
  apart : dir.entry path ≠ some (.file file)
  written : (dir.node file).contents = written

variable {path old}
variable {dir : Directory String} {choice : Choice} {tmpPath : String}
variable {file : Nat} {written : List UInt8}

/-- A file of another name may be edited. -/
theorem Intact.edit (intact : Intact path old dir)
    (apart : dir.entry path ≠ some (.file file)) (node : Node) :
    Intact path old (dir.edit file node) := by
  constructor
  · rw [← intact.contents]
    refine contents_congr rfl ?_
    intro inode named
    have differs : inode ≠ file := by
      rintro rfl
      exact apart named
    rw [edit_node, Function.update_of_ne differs]
  · rcases intact.plain with vacant | ⟨inode, sole⟩
    · exact .inl vacant
    · exact .inr ⟨inode, sole.of_entries rfl fun _ => .inl rfl⟩

theorem Intact.create (intact : Intact path old dir)
    (differs : tmpPath ≠ path) (node : Node) :
    Intact path old (dir.create tmpPath node) := by
  constructor
  · rw [← intact.contents]
    refine contents_congr (Function.update_of_ne differs.symm _ _) ?_
    intro inode named
    rw [create_node,
      Function.update_of_ne (Nat.ne_of_lt (dir.known path inode named))]
  · rcases intact.plain with vacant | ⟨inode, sole⟩
    · exact .inl ((Function.update_of_ne differs.symm _ _).trans vacant)
    · exact .inr ⟨inode, sole.create differs node⟩

theorem Intact.unlink (intact : Intact path old dir)
    (differs : tmpPath ≠ path) : Intact path old (dir.unlink tmpPath) := by
  constructor
  · rw [← intact.contents]
    exact contents_congr (Function.update_of_ne differs.symm _ _)
      fun _ _ => rfl
  · rcases intact.plain with vacant | ⟨inode, sole⟩
    · exact .inl ((Function.update_of_ne differs.symm _ _).trans vacant)
    · exact .inr ⟨inode, sole.unlink differs⟩

theorem Intact.openTruncate (intact : Intact path old dir)
    (differs : tmpPath ≠ path) :
    Intact path old (handle choice (.openTruncate tmpPath) dir).2 ∧
      ∀ file, (handle choice (.openTruncate tmpPath) dir).1 = .ok file →
        Held path old tmpPath file []
          (handle choice (.openTruncate tmpPath) dir).2 := by
  rcases @handle_openTruncate _ _ dir choice tmpPath with
    ⟨error, refused⟩ | ⟨_, opened⟩ | ⟨inode, named, opened⟩
  · rw [refused]
    refine ⟨intact, ?_⟩
    intro file answer
    cases answer
  · rw [opened]
    have created := intact.create differs
      { contents := [], mtime := choice.clock }
    refine ⟨created, ?_⟩
    intro file answer
    cases answer
    have sole := Sole.of_create dir tmpPath
      { contents := [], mtime := choice.clock }
    exact ⟨created, sole.named, sole.elsewhere differs.symm, by simp⟩
  · rw [opened]
    have apart : dir.entry path ≠ some (.file inode) := by
      intro shared
      rcases intact.plain with vacant | ⟨other, sole⟩
      · rw [vacant] at shared
        cases shared
      · rw [sole.named] at shared
        cases shared
        exact differs (sole.only tmpPath named)
    have edited := intact.edit apart { contents := [], mtime := choice.clock }
    refine ⟨edited, ?_⟩
    intro file answer
    cases answer
    exact ⟨edited, named, apart, by simp⟩

theorem Held.write (held : Held path old tmpPath file written dir)
    (bytes : List UInt8) :
    (∃ error, (handle choice (.write file bytes) dir).1 = .error error ∧
      Held path old tmpPath file written
        (handle choice (.write file bytes) dir).2) ∨
    ∃ taken ≤ bytes.length,
      (handle choice (.write file bytes) dir).1 = .ok taken ∧
      Held path old tmpPath file (written ++ bytes.take taken)
        (handle choice (.write file bytes) dir).2 := by
  rcases @handle_write _ _ dir choice file bytes with
    ⟨error, refused⟩ | ⟨taken, fits, wrote⟩
  · rw [refused]
    exact .inl ⟨error, rfl, held⟩
  · rw [wrote]
    refine .inr ⟨taken, fits, rfl, held.intact.edit held.apart _,
      held.named, held.apart, ?_⟩
    rw [edit_node, Function.update_self, held.written]

theorem Intact.remove (intact : Intact path old dir)
    (differs : tmpPath ≠ path) :
    Intact path old (handle choice (.remove tmpPath) dir).2 := by
  rcases @handle_remove _ _ dir choice tmpPath with ⟨error, refused⟩ | removed
  · rw [refused]
    exact intact
  · rw [removed]
    exact intact.unlink differs

/-- The rename puts all that has been written in place, or does nothing. -/
theorem Held.rename (held : Held path old tmpPath file written dir)
    (differs : tmpPath ≠ path) :
    (∃ error, handle choice (.rename tmpPath path) dir = (.error error, dir)) ∨
    (handle choice (.rename tmpPath path) dir).1 = .ok () ∧
      (handle choice (.rename tmpPath path) dir).2.contents path =
        some written := by
  rcases @handle_rename _ _ dir choice tmpPath path with
    refused | ⟨inode, source, target, _⟩ | moved
  · exact .inl refused
  · rw [held.named] at source
    cases source
    exact absurd target held.apart
  · right
    have named : (dir.move tmpPath path).entry path = some (.file file) := by
      simp [differs.symm, held.named]
    rw [moved, contents_file named]
    exact ⟨rfl, congrArg some held.written⟩

end Files

section Runs

variable (readJson : List UInt8 → Except String Json.Value) (job : Job)
variable (path : String) (old : Option (List UInt8))

/-- The complete new settings are in place. -/
def Renewed (dir : Directory String) : Prop :=
  ∃ fields, readFields readJson job old = .ok (some fields) ∧
    dir.contents path = some (printed (revise job fields))

def Whole (dir : Directory String) : Prop :=
  dir.contents path = old ∨ Renewed readJson job path old dir

/-- With nobody else at the settings: they are whole after every call, and a
failure leaves them as they were. -/
def Atomic {Value : Type} (post : Value → Directory String → Prop)
    (program : Running Value) (dir : Directory String) : Prop :=
  Program.SafeExcept handle Eq (fun _ => Whole readJson job path old) post
    (fun _ dir => dir.contents path = old) program dir

variable {readJson job path old}
variable {dir : Directory String} {stamps : Nat → Stamp} {stamp : Stamp}
variable {Value Value' : Type} {post : Value → Directory String → Prop}

theorem Intact.whole (intact : Intact path old dir) :
    Whole readJson job path old dir :=
  .inl intact.contents

theorem Atomic.pure {value : Value} (holds : post value dir) :
    Atomic readJson job path old post (Pure.pure value) dir := by
  rintro _ rfl
  exact holds

theorem Atomic.throw {error : InstallError}
    (intact : Intact path old dir) :
    Atomic readJson job path old post (MonadExcept.throw error) dir := by
  rintro _ rfl
  exact intact.contents

theorem Atomic.bind {first : Running Value'}
    {next : Value' → Running Value}
    {middle : Value' → Directory String → Prop}
    (safe : Atomic readJson job path old middle first dir)
    (goesOn : ∀ value dir, middle value dir →
      Atomic readJson job path old post (next value) dir) :
    Atomic readJson job path old post (first >>= next) dir :=
  Program.SafeExcept.bind (fun _ => rfl)
    (Program.SafeExcept.mono goesOn safe)

theorem Atomic.requested {call : Call String}
    {next : call.Answer → Running Value}
    (safe : ∀ choice, Whole readJson job path old (handle choice call dir).2 ∧
      Atomic readJson job path old post (next (handle choice call dir).1)
        (handle choice call dir).2) :
    Atomic readJson job path old post (request call >>= next) dir := by
  refine request_bind ?_
  rintro _ rfl
  exact safe

theorem Atomic.attempted {call : Call String} {error : InstallError}
    {next : call.Value → Running Value}
    (safe : ∀ choice,
      (∃ kind, (handle choice call dir).1 = .error kind ∧
        Intact path old (handle choice call dir).2) ∨
      ∃ value, (handle choice call dir).1 = .ok value ∧
        Whole readJson job path old (handle choice call dir).2 ∧
        Atomic readJson job path old post (next value)
          (handle choice call dir).2) :
    Atomic readJson job path old post (attempt call error >>= next) dir := by
  refine Atomic.requested ?_
  intro choice
  rcases safe choice with ⟨kind, answer, intact⟩ | ⟨value, answer, whole, goesOn⟩
  · rw [answer]
    exact ⟨intact.whole, Atomic.throw intact⟩
  · rw [answer]
    exact ⟨whole, goesOn⟩

theorem Atomic.idle {call : Call String} {next : call.Answer → Running Value}
    (whole : Whole readJson job path old dir) (idle : call.isIdle = true)
    (goesOn : ∀ answer, Atomic readJson job path old post (next answer) dir) :
    Atomic readJson job path old post (request call >>= next) dir := by
  refine Atomic.requested ?_
  intro choice
  rw [handle_idle idle]
  exact ⟨whole, goesOn _⟩

theorem Atomic.attempted_idle {call : Call String} {error : InstallError}
    {next : call.Value → Running Value}
    (intact : Intact path old dir) (idle : call.isIdle = true)
    (goesOn : ∀ value, Atomic readJson job path old post (next value) dir) :
    Atomic readJson job path old post (attempt call error >>= next) dir := by
  refine Atomic.idle intact.whole idle ?_
  intro answer
  cases answer with
  | ok value => exact goesOn value
  | error kind => exact Atomic.throw intact

theorem statIdentity_atomic (intact : Intact path old dir) :
    Atomic readJson job path old (fun _ later => later = dir)
      (statIdentity path) dir := by
  unfold statIdentity
  refine Atomic.idle intact.whole rfl ?_
  intro answer
  cases answer with
  | ok found => exact Atomic.pure rfl
  | error kind => exact Atomic.pure rfl

theorem readContents_atomic (intact : Intact path old dir) :
    Atomic readJson job path old
      (fun contents later => contents = old ∧ later = dir)
      (readContents path) dir := by
  unfold readContents
  refine Atomic.requested ?_
  intro choice
  rw [handle_idle rfl]
  refine ⟨intact.whole, ?_⟩
  rcases @handle_read _ _ dir choice path with
    ⟨kind, answer, absent⟩ | ⟨bytes, answer, found⟩
  · rw [answer]
    cases kind with
    | notFound =>
        refine Atomic.pure ⟨?_, rfl⟩
        rw [← intact.contents, contents, absent rfl]
    | alreadyExists => exact Atomic.throw intact
    | other => exact Atomic.throw intact
  · rw [answer]
    exact Atomic.pure ⟨found.symm.trans intact.contents, rfl⟩

theorem writeAll_atomic {tmpPath : String} {file : Nat} {written : List UInt8}
    {error : InstallError} (bytes : List UInt8)
    (held : Held path old tmpPath file written dir) :
    Atomic readJson job path old
      (fun _ => Held path old tmpPath file (written ++ bytes))
      (writeAll file error bytes) dir := by
  refine writeAll_safe (Held path old tmpPath file) ?_ ?_ ?_ bytes written held
  · rintro written state _ held rfl
    exact held
  · intro written bytes state choice held
    have writes := @Held.write _ _ _ choice _ _ _ held bytes
    refine ⟨?_, writes⟩
    rcases writes with ⟨_, _, held⟩ | ⟨_, _, _, held⟩
    · exact held.intact.whole
    · exact held.intact.whole
  · intro written state held
    exact held.intact.contents

theorem writePrettyJson_atomic {tmpPath : String} (differs : tmpPath ≠ path)
    (value : Json.Value) (intact : Intact path old dir) :
    Atomic readJson job path old
      (fun _ dir => ∃ file, Held path old tmpPath file (printed value) dir)
      (writePrettyJson tmpPath value) dir := by
  unfold writePrettyJson
  refine Atomic.attempted ?_
  intro choice
  obtain ⟨opened, holds⟩ := @Intact.openTruncate _ _ _ choice _ intact differs
  cases answer : (handle choice (.openTruncate tmpPath) dir).1 with
  | error kind => exact .inl ⟨kind, rfl, opened⟩
  | ok file =>
      refine .inr ⟨file, rfl, opened.whole, ?_⟩
      refine Atomic.bind (writeAll_atomic (serialized value) (holds file answer)) ?_
      intro _ dir held
      refine Program.SafeExcept.mono ?_ (writeAll_atomic [Utf8.newline] held)
      intro _ dir held
      exact ⟨file, held⟩

theorem atomicWrite_atomic {fields : List (String × Json.Value)}
    (read : readFields readJson job old = .ok (some fields))
    (intact : Intact path old dir) :
    Atomic readJson job path old
      (fun outcome dir => match outcome with
        | .wrote => Renewed readJson job path old dir
        | .concurrentChange => Intact path old dir)
      (atomicWrite path stamp (revise job fields)) dir := by
  have differs := tmpPathFor_ne path stamp
  unfold atomicWrite fsyncFile
  refine Atomic.attempted_idle intact rfl fun _ => ?_
  refine Atomic.bind (statIdentity_atomic intact) ?_
  rintro preRename _ rfl
  refine Atomic.bind (writePrettyJson_atomic differs _ intact) ?_
  rintro _ dir ⟨file, held⟩
  refine Atomic.attempted_idle held.intact rfl fun _ => ?_
  refine Atomic.bind (statIdentity_atomic held.intact) ?_
  rintro postBaseline _ rfl
  split
  · refine Atomic.requested ?_
    intro choice
    have removed := @Intact.remove _ _ _ choice _ held.intact differs
    exact ⟨removed.whole, Atomic.pure removed⟩
  · refine Atomic.attempted ?_
    intro choice
    rcases @Held.rename _ _ _ choice _ _ _ held differs with
      ⟨kind, refused⟩ | ⟨answer, moved⟩
    · rw [refused]
      exact .inl ⟨kind, rfl, held.intact⟩
    · have renewed : Renewed readJson job path old _ := ⟨fields, read, moved⟩
      refine .inr ⟨(), answer, .inr renewed, ?_⟩
      exact Atomic.idle (.inr renewed) rfl fun _ => Atomic.pure renewed

/-- What comes with an outcome: the new settings, or nothing to uninstall. -/
def Settled (readJson : List UInt8 → Except String Json.Value) (job : Job)
    (path : String) (old : Option (List UInt8)) (outcome : Outcome)
    (dir : Directory String) : Prop :=
  Renewed readJson job path old dir ∨
    (job = .uninstall ∧ old = none ∧ outcome = .uninstalled false [] ∧
      dir.contents path = none)

theorem readFields_none
    (nothing : readFields readJson job old = .ok none) :
    job = .uninstall ∧ old = none := by
  cases old with
  | some contents =>
      simp only [readFields] at nothing
      cases parsed : parseSettings readJson contents with
      | error error => simp [parsed, Except.map] at nothing
      | ok fields => simp [parsed, Except.map] at nothing
  | none =>
      refine ⟨?_, rfl⟩
      cases job with
      | install => simp [readFields] at nothing
      | uninstall => rfl

theorem runAttempt_atomic {attempt : Nat} {created : Bool}
    {again : Bool → Running Outcome}
    (goesOn : ∀ created dir, Intact path old dir →
      Atomic readJson job path old (Settled readJson job path old)
        (again created) dir)
    (intact : Intact path old dir) :
    Atomic readJson job path old (Settled readJson job path old)
      (runAttempt readJson job path stamps attempt created again) dir := by
  unfold runAttempt
  refine Atomic.bind (readContents_atomic intact) ?_
  rintro contents _ ⟨same, rfl⟩
  dsimp only
  rw [same]
  cases read : readFields readJson job old with
  | error error => exact Atomic.throw intact
  | ok fields =>
      cases fields with
      | none =>
          obtain ⟨uninstalls, absent⟩ := readFields_none read
          exact Atomic.pure
            (.inr ⟨uninstalls, absent, rfl, intact.contents.trans absent⟩)
      | some fields =>
          refine Atomic.bind (atomicWrite_atomic read intact) ?_
          intro outcome dir holds
          cases outcome with
          | wrote => exact Atomic.pure (.inl holds)
          | concurrentChange => exact goesOn _ dir holds

theorem runAttempts_atomic (backoffs : List Nat) (attempt : Nat)
    (created : Bool) (intact : Intact path old dir) :
    Atomic readJson job path old (Settled readJson job path old)
      (runAttempts readJson job path stamps attempt created backoffs) dir := by
  induction backoffs generalizing attempt created dir with
  | nil => exact runAttempt_atomic (fun _ _ intact => Atomic.throw intact) intact
  | cons backoff rest induction =>
      refine runAttempt_atomic ?_ intact
      intro created dir intact
      exact Atomic.idle intact.whole rfl fun _ =>
        induction (attempt + 1) created intact

end Runs

/-! The run in a directory that holds the settings and nothing else. -/

def settled (path : String) : Option Node → Directory String
  | none => .empty
  | some node => Directory.empty.create path node

theorem settled_intact (path : String) (before : Option Node) :
    Intact path (before.map Node.contents) (settled path before) := by
  cases before with
  | none => exact ⟨rfl, .inl rfl⟩
  | some node =>
      have sole := Sole.of_create Directory.empty path node
      exact ⟨by rw [settled, contents_file sole.named]; simp, .inr ⟨_, sole⟩⟩

abbrev SettingsPool : Type :=
  Pool Unit (Call String) Call.Answer (Except InstallError Outcome)
    (Directory String)

section Alone

variable (readJson : List UInt8 → Except String Json.Value) (job : Job)
variable (path : String) (stamps : Nat → Stamp) (before : Option Node)

def SettingsPool.start : SettingsPool where
  state := settled path before
  run _ := (settingsProgram readJson job path stamps).run

/-- One run and nobody else. -/
def SettingsPool.after (choices : List Choice) : SettingsPool :=
  Pool.after (fun _ => handle) (fun (act : Empty) _ => act.elim)
    (SettingsPool.start readJson job path stamps before)
    (choices.map (Turn.advance ()))

variable {readJson job path stamps before}

theorem alone_compatible {guarantee : Unit → Directory String →
      Directory String → Prop} :
    Pool.Compatible (fun (act : Empty) (_ : Directory String) => act.elim)
      (fun _ => Eq) guarantee where
  refl _ _ := rfl
  trans := Eq.trans
  others differs := absurd rfl differs
  outsiders _ act := act.elim

theorem SettingsPool.safe (choices : List Choice) :
    (after readJson job path stamps before choices).Safe (fun _ => handle)
      (fun _ => Eq)
      (fun _ _ => Whole readJson job path (before.map Node.contents))
      (fun _ => Program.settle
        (Settled readJson job path (before.map Node.contents))
        fun _ dir => dir.contents path = before.map Node.contents) := by
  refine Pool.Safe.after alone_compatible ?_ _
  intro _
  have atomic : Atomic readJson job path _ _
      (settingsProgram readJson job path stamps) _ :=
    runAttempts_atomic retryBackoffs 0 false (settled_intact path before)
  exact atomic

theorem SettingsPool.whole (choices : List Choice) :
    Whole readJson job path (before.map Node.contents)
      (after readJson job path stamps before choices).state := by
  induction choices using List.reverseRecOn with
  | nil => exact (settled_intact path before).whole
  | append_singleton choices choice induction =>
      rw [after, List.map_append, List.map_singleton, Pool.after_snoc]
      rcases (SettingsPool.safe choices).advance alone_compatible () choice with
        ⟨_, _, still⟩ | whole
      · exact (congrArg (fun pool => Whole readJson job path
          (before.map Node.contents) pool.state) still).mpr induction
      · exact whole

/-- Wherever a run stands, and so wherever it is killed, the settings are as they
were or completely new; an error leaves them as they were; and an outcome comes
with the new settings, unless there was no file to uninstall from. -/
theorem settings_all_or_nothing
    (readJson : List UInt8 → Except String Json.Value) (job : Job)
    (path : String) (stamps : Nat → Stamp) (before : Option Node)
    (choices : List Choice) :
    let old := before.map Node.contents
    let pool := SettingsPool.after readJson job path stamps before choices
    (pool.state.contents path = old ∨ Renewed readJson job path old pool.state) ∧
    (∀ error, pool.run () = .done (.error error) →
      pool.state.contents path = old) ∧
    (∀ outcome, pool.run () = .done (.ok outcome) →
      Renewed readJson job path old pool.state ∨
        (job = .uninstall ∧ old = none ∧ outcome = .uninstalled false [] ∧
          pool.state.contents path = none)) := by
  refine ⟨SettingsPool.whole choices, ?_, ?_⟩
  · intro error finished
    exact (SettingsPool.safe choices).result alone_compatible finished
  · intro outcome finished
    exact (SettingsPool.safe choices).result alone_compatible finished

/-- An uninstall that finds no file succeeds with nothing in place. -/
theorem settings_ok_without_file :
    ¬ ∀ (readJson : List UInt8 → Except String Json.Value) (job : Job)
        (path : String) (stamps : Nat → Stamp) (before : Option Node)
        (choices : List Choice) (outcome : Outcome),
      (SettingsPool.after readJson job path stamps before choices).run () =
        .done (.ok outcome) →
      Renewed readJson job path (before.map Node.contents)
        (SettingsPool.after readJson job path stamps before choices).state := by
  intro claim
  obtain ⟨fields, read, _⟩ := claim (fun _ => .error "") .uninstall
    "settings.json" (fun seq => { pid := 1, nanos := 0, seq }) none
    [{ fails := false, taken := 0, clock := none }] (.uninstalled false []) rfl
  cases read

end Alone

end Bowerbird.Adapter.Install
