import Bowerbird.Foundation.Interaction

namespace Bowerbird.Foundation.Program

/-! Programs that may fail, before a monitor, and their runs: what has been asked
and answered so far, whatever the environment is. -/

variable {Op : Type} {Answer : Op → Type} {Result Failure Value Value' : Type}

def consult (op : Op) : ExceptT Failure (Program Op Answer) (Answer op) :=
  ExceptT.lift (query op)

/-- The result with its failure, for a program that goes on either way. -/
def attempted (program : ExceptT Failure (Program Op Answer) Value) :
    ExceptT Failure (Program Op Answer) (Except Failure Value) :=
  ExceptT.lift program.run

def mapFailure (change : Failure → Failure)
    (program : ExceptT Failure (Program Op Answer) Value) :
    ExceptT Failure (Program Op Answer) Value := do
  match ← attempted program with
  | .ok value => pure value
  | .error failure => throw (change failure)

section Keeps

def endsWith {Memory : Type} (post : Memory → Value → Prop)
    (failed : Memory → Failure → Prop) (memory : Memory) :
    Except Failure Value → Prop
  | .ok value => post memory value
  | .error failure => failed memory failure

variable (monitor : Monitor Op Answer)

/-- Whatever the answers, the program asks only what is allowed; a value comes
with `post`, a failure with `failed`. -/
def Keeps (post : monitor.Memory → Value → Prop)
    (failed : monitor.Memory → Failure → Prop) (memory : monitor.Memory)
    (program : ExceptT Failure (Program Op Answer) Value) : Prop :=
  program.run.Obeys monitor (endsWith post failed) memory

variable {monitor} {post : monitor.Memory → Value → Prop}
variable {failed : monitor.Memory → Failure → Prop} {memory : monitor.Memory}
variable {program : ExceptT Failure (Program Op Answer) Value}

theorem Keeps.pure {value : Value} (holds : post memory value) :
    Keeps monitor post failed memory
      (Pure.pure value : ExceptT Failure (Program Op Answer) Value) :=
  holds

theorem Keeps.throw {failure : Failure} (holds : failed memory failure) :
    Keeps monitor post failed memory
      (MonadExcept.throw failure : ExceptT Failure (Program Op Answer) Value) :=
  holds

theorem Keeps.mono {weaker : monitor.Memory → Value → Prop}
    {weaker' : monitor.Memory → Failure → Prop}
    (weaken : ∀ memory value, post memory value → weaker memory value)
    (weaken' : ∀ memory failure, failed memory failure → weaker' memory failure)
    (keeps : Keeps monitor post failed memory program) :
    Keeps monitor weaker weaker' memory program := by
  refine Obeys.mono monitor ?_ keeps
  intro memory result holds
  cases result with
  | ok value => exact weaken memory value holds
  | error failure => exact weaken' memory failure holds

theorem Keeps.weaken {weaker : monitor.Memory → Value → Prop}
    (weaken : ∀ memory value, post memory value → weaker memory value)
    (keeps : Keeps monitor post failed memory program) :
    Keeps monitor weaker failed memory program :=
  keeps.mono weaken fun _ _ => id

/-- However the program fails. -/
theorem Keeps.anyFailure (keeps : Keeps monitor post failed memory program) :
    Keeps monitor post (fun _ _ => True) memory program :=
  keeps.mono (fun _ _ => id) fun _ _ _ => trivial

/-- A program, and what comes after it wherever it ends. -/
theorem Keeps.andThen {middle : monitor.Memory → Value → Prop}
    {post : monitor.Memory → Value' → Prop}
    {next : Value → ExceptT Failure (Program Op Answer) Value'}
    (keeps : Keeps monitor middle failed memory program)
    (goesOn : ∀ memory value, middle memory value →
      Keeps monitor post failed memory (next value)) :
    Keeps monitor post failed memory (program >>= next) := by
  unfold Keeps at keeps ⊢
  rw [ExceptT.run_bind]
  refine Obeys.bind monitor (Obeys.mono monitor ?_ keeps)
  intro memory result holds
  cases result with
  | ok value => exact goesOn memory value holds
  | error failure => exact holds

/-- One question, and the rest of the program after it. -/
theorem Keeps.consult {op : Op} {next : Answer op → ExceptT Failure (Program Op Answer) Value}
    (allowed : monitor.allowed memory op)
    (goesOn : ∀ answer, Keeps monitor post failed
      (monitor.remember memory op answer) (next answer)) :
    Keeps monitor post failed memory (Program.consult op >>= next) :=
  ⟨allowed, goesOn⟩

/-- One question whose answers are remembered as `changed` says. -/
theorem Keeps.consultAs {op : Op} {changed : Answer op → monitor.Memory}
    {next : Answer op → ExceptT Failure (Program Op Answer) Value}
    (remembered : ∀ answer, monitor.remember memory op answer = changed answer)
    (allowed : monitor.allowed memory op)
    (goesOn : ∀ answer, Keeps monitor post failed (changed answer) (next answer)) :
    Keeps monitor post failed memory (Program.consult op >>= next) := by
  refine .consult allowed fun answer => ?_
  rw [remembered answer]
  exact goesOn answer

/-- A question that is all of the program. -/
theorem Keeps.last {op : Op} {post : monitor.Memory → Answer op → Prop}
    (allowed : monitor.allowed memory op)
    (holds : ∀ answer, post (monitor.remember memory op answer) answer) :
    Keeps monitor post failed memory
      (Program.consult op : ExceptT Failure (Program Op Answer) (Answer op)) :=
  ⟨allowed, holds⟩

theorem Keeps.attempted {middle : monitor.Memory → Value → Prop}
    {failing : monitor.Memory → Failure → Prop}
    {post : monitor.Memory → Value' → Prop}
    {next : Except Failure Value → ExceptT Failure (Program Op Answer) Value'}
    (keeps : Keeps monitor middle failing memory program)
    (goesOn : ∀ memory value, middle memory value →
      Keeps monitor post failed memory (next (.ok value)))
    (fails : ∀ memory failure, failing memory failure →
      Keeps monitor post failed memory (next (.error failure))) :
    Keeps monitor post failed memory (Program.attempted program >>= next) := by
  refine Obeys.bind monitor ?_
  refine Obeys.bind monitor (Obeys.mono monitor ?_ keeps)
  intro memory result holds
  cases result with
  | ok value => exact goesOn memory value holds
  | error failure => exact fails memory failure holds

/-- For failures that are all alike to `failed`. -/
theorem Keeps.mapFailure {change : Failure → Failure}
    (alike : ∀ memory failure, failed memory failure →
      failed memory (change failure))
    (keeps : Keeps monitor post failed memory program) :
    Keeps monitor post failed memory (Program.mapFailure change program) :=
  .attempted keeps (fun _ _ holds => .pure holds)
    (fun memory failure holds => .throw (alike memory failure holds))

end Keeps

/-! Runs, as far as they have come. -/

abbrev Exchange (Op : Type) (Answer : Op → Type) : Type :=
  (op : Op) × Answer op

inductive Asks : Program Op Answer Result → List (Exchange Op Answer) →
    Program Op Answer Result → Prop
  | here (program : Program Op Answer Result) : Asks program [] program
  | asks {op : Op} {resume : Answer op → Program Op Answer Result}
      {answer : Answer op} {later : List (Exchange Op Answer)}
      {rest : Program Op Answer Result} (goesOn : Asks (resume answer) later rest) :
      Asks (.ask op resume) (⟨op, answer⟩ :: later) rest

namespace Monitor

variable (monitor : Monitor Op Answer)

def memoryAfter (memory : monitor.Memory) (trace : List (Exchange Op Answer)) :
    monitor.Memory :=
  trace.foldl (fun memory exchange =>
    monitor.remember memory exchange.1 exchange.2) memory

end Monitor

section Asks

variable {monitor : Monitor Op Answer} {post : monitor.Memory → Result → Prop}
variable {memory : monitor.Memory} {program rest : Program Op Answer Result}
variable {trace : List (Exchange Op Answer)}

/-- What is left of a run obeys, from what is known by then. -/
theorem Obeys.asks (obeys : program.Obeys monitor post memory)
    (run : Asks program trace rest) :
    rest.Obeys monitor post (monitor.memoryAfter memory trace) := by
  induction run generalizing memory with
  | here => exact obeys
  | asks goesOn induction => exact induction (obeys.2 _)

theorem Asks.split {before : List (Exchange Op Answer)}
    {exchange : Exchange Op Answer} {after : List (Exchange Op Answer)}
    (run : Asks program (before ++ exchange :: after) rest) :
    ∃ resume, Asks program before (.ask exchange.1 resume) := by
  induction before generalizing program with
  | nil =>
      cases run with
      | asks goesOn => exact ⟨_, .here _⟩
  | cons first before induction =>
      cases run with
      | asks goesOn =>
          obtain ⟨resume, run⟩ := induction goesOn
          exact ⟨resume, .asks run⟩

/-- Every question of a run is allowed by what was known before it. -/
theorem Obeys.allowed {before : List (Exchange Op Answer)}
    {exchange : Exchange Op Answer} {after : List (Exchange Op Answer)}
    (obeys : program.Obeys monitor post memory)
    (run : Asks program (before ++ exchange :: after) rest) :
    monitor.allowed (monitor.memoryAfter memory before) exchange.1 := by
  obtain ⟨resume, begun⟩ := run.split
  exact (obeys.asks begun).1

end Asks

end Bowerbird.Foundation.Program
