import Mathlib.Data.List.Basic

namespace Bowerbird.Foundation

/-! Programs as interactions: a program either is done or asks one operation of
its environment and goes on with the answer.  The same program can be run alone
against a handler or, one question at a time, interleaved with others. -/

inductive Program (Op : Type) (Answer : Op → Type) (Result : Type) where
  | done (result : Result)
  | ask (op : Op) (resume : Answer op → Program Op Answer Result)

namespace Program

variable {Op : Type} {Answer : Op → Type} {Result Result' State Item : Type}

def andThen (next : Result → Program Op Answer Result') :
    Program Op Answer Result → Program Op Answer Result'
  | .done result => next result
  | .ask op resume => .ask op fun answer => (resume answer).andThen next

instance : Monad (Program Op Answer) where
  pure := .done
  bind program next := program.andThen next

def query (op : Op) : Program Op Answer (Answer op) :=
  .ask op .done

@[simp] theorem pure_eq (result : Result) :
    (pure result : Program Op Answer Result) = .done result :=
  rfl

@[simp] theorem done_bind (result : Result)
    (next : Result → Program Op Answer Result') :
    (Program.done result >>= next) = next result :=
  rfl

@[simp] theorem ask_bind (op : Op)
    (resume : Answer op → Program Op Answer Result)
    (next : Result → Program Op Answer Result') :
    (Program.ask op resume >>= next) =
      .ask op fun answer => resume answer >>= next :=
  rfl

@[simp] theorem query_bind (op : Op)
    (next : Answer op → Program Op Answer Result) :
    (query op >>= next) = .ask op next :=
  rfl

/-- Run the body on every item, in order. -/
def each (body : Item → Program Op Answer Unit) :
    List Item → Program Op Answer Unit
  | [] => .done ()
  | item :: rest => do
      body item
      each body rest

/-! A program alone against a handler. -/

section Handler

variable (handle : (op : Op) → State → Answer op × State)

def runWith : Program Op Answer Result → State → Result × State
  | .done result, state => (result, state)
  | .ask op resume, state =>
      let (answer, next) := handle op state
      (resume answer).runWith next

@[simp] theorem runWith_done (result : Result) (state : State) :
    (Program.done result : Program Op Answer Result).runWith handle state =
      (result, state) :=
  rfl

@[simp] theorem runWith_ask (op : Op)
    (resume : Answer op → Program Op Answer Result) (state : State) :
    (Program.ask op resume).runWith handle state =
      (resume (handle op state).1).runWith handle (handle op state).2 :=
  rfl

theorem runWith_bind (program : Program Op Answer Result)
    (next : Result → Program Op Answer Result') (state : State) :
    (program >>= next).runWith handle state =
      (next (program.runWith handle state).1).runWith handle
        (program.runWith handle state).2 := by
  induction program generalizing state with
  | done result => rfl
  | ask op resume induction =>
      simp only [ask_bind, runWith_ask]
      exact induction _ _

/-- What every answer keeps, a whole program keeps. -/
theorem runWith_preserves (holds : State → Prop)
    (kept : ∀ op state, holds state → holds (handle op state).2)
    (program : Program Op Answer Result) (state : State)
    (initially : holds state) : holds (program.runWith handle state).2 := by
  induction program generalizing state with
  | done result => exact initially
  | ask op resume induction => exact induction _ _ (kept op state initially)

/-- The loop rule: an invariant of the items still to come, kept by every body,
holds when the loop has run. -/
theorem runWith_each (body : Item → Program Op Answer Unit)
    {holds : List Item → State → Prop}
    (kept : ∀ item rest state, holds (item :: rest) state →
      holds rest ((body item).runWith handle state).2)
    {items : List Item} {state : State} (initially : holds items state) :
    holds [] ((each body items).runWith handle state).2 := by
  induction items generalizing state with
  | nil => exact initially
  | cons item rest induction =>
      simp only [each, runWith_bind]
      exact induction (kept item rest state initially)

end Handler

/-! A monitor watches the questions of a program: what it may ask depends on what
has been asked and answered before. -/

structure Monitor (Op : Type) (Answer : Op → Type) where
  Memory : Type
  allowed : Memory → Op → Prop
  remember : Memory → (op : Op) → Answer op → Memory

section Monitor

variable (monitor : Monitor Op Answer)

/-- Whatever the answers, the program asks only what is allowed, and ends with
a memory and a result that satisfy `post`. -/
def Obeys (post : monitor.Memory → Result → Prop) :
    monitor.Memory → Program Op Answer Result → Prop
  | memory, .done result => post memory result
  | memory, .ask op resume =>
      monitor.allowed memory op ∧
        ∀ answer, Obeys post (monitor.remember memory op answer) (resume answer)

theorem Obeys.ask {op : Op} {resume : Answer op → Program Op Answer Result}
    {post : monitor.Memory → Result → Prop} {memory : monitor.Memory}
    (allowed : monitor.allowed memory op)
    (obeys : ∀ answer,
      (resume answer).Obeys monitor post (monitor.remember memory op answer)) :
    (Program.ask op resume).Obeys monitor post memory :=
  ⟨allowed, obeys⟩

theorem Obeys.bind {program : Program Op Answer Result}
    {next : Result → Program Op Answer Result'}
    {post : monitor.Memory → Result' → Prop} {memory : monitor.Memory}
    (obeys : program.Obeys monitor
      (fun memory result => (next result).Obeys monitor post memory) memory) :
    (program >>= next).Obeys monitor post memory := by
  induction program generalizing memory with
  | done result => exact obeys
  | ask op resume induction =>
      exact ⟨obeys.1, fun answer => induction answer (obeys.2 answer)⟩

theorem Obeys.mono {program : Program Op Answer Result}
    {post weaker : monitor.Memory → Result → Prop} {memory : monitor.Memory}
    (weaken : ∀ memory result, post memory result → weaker memory result)
    (obeys : program.Obeys monitor post memory) :
    program.Obeys monitor weaker memory := by
  induction program generalizing memory with
  | done result => exact weaken _ _ obeys
  | ask op resume induction =>
      exact ⟨obeys.1, fun answer => induction answer (obeys.2 answer)⟩

/-- Run against a handler, a program changes the state only as the operations
that it is allowed do. -/
theorem Obeys.runWith {handle : (op : Op) → State → Answer op × State}
    (changes : State → State → Prop) (refl : ∀ state, changes state state)
    (trans : ∀ {first second third}, changes first second →
      changes second third → changes first third)
    (kept : ∀ memory op state, monitor.allowed memory op →
      changes state (handle op state).2)
    {program : Program Op Answer Result}
    {post : monitor.Memory → Result → Prop} {memory : monitor.Memory}
    {state : State} (obeys : program.Obeys monitor post memory) :
    changes state (program.runWith handle state).2 := by
  induction program generalizing memory state with
  | done result => exact refl state
  | ask op resume induction =>
      apply trans (kept memory op state obeys.1)
      exact induction _ (obeys.2 _)

theorem Obeys.each {body : Item → Program Op Answer Unit}
    (holds : monitor.Memory → Prop) {items : List Item}
    {memory : monitor.Memory}
    (kept : ∀ item ∈ items, ∀ memory, holds memory →
      (body item).Obeys monitor (fun memory _ => holds memory) memory)
    (initially : holds memory) :
    (each body items).Obeys monitor (fun memory _ => holds memory) memory := by
  induction items generalizing memory with
  | nil => exact initially
  | cons item rest induction =>
      refine Obeys.bind monitor (Obeys.mono monitor ?_
        (kept item (by simp) memory initially))
      intro memory' _ holds'
      exact induction (fun other member => kept other (by simp [member])) holds'

end Monitor

end Program

end Bowerbird.Foundation
