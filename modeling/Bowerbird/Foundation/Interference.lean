import Bowerbird.Foundation.Interaction
import Mathlib.Data.List.Induction
import Mathlib.Logic.Function.Basic

namespace Bowerbird.Foundation

/-! Programs that share a state.  Between two questions of one program the others
and the outside may change the state: what a program counts on is its rely, what
it lets the others count on is its guarantee. -/

namespace Program

variable {Op : Type} {Answer : Op → Type} {Result Result' State Choice : Type}

/-- Alone, and with some choices, the program ends. -/
inductive Ends (handle : Choice → (op : Op) → State → Answer op × State) :
    Program Op Answer Result → State → Result → State → Prop
  | done {result : Result} {state : State} :
      Ends handle (.done result) state result state
  | ask {op : Op} {resume : Answer op → Program Op Answer Result}
      {state final : State} {result : Result} (choice : Choice)
      (goesOn : Ends handle (resume (handle choice op state).1)
        (handle choice op state).2 result final) :
      Ends handle (.ask op resume) state result final

section Ends

variable {handle : Choice → (op : Op) → State → Answer op × State}

theorem Ends.of_done {result value : Result} {state final : State}
    (ended : Ends handle (.done result : Program Op Answer Result) state value
      final) : result = value ∧ state = final := by
  cases ended
  exact ⟨rfl, rfl⟩

theorem Ends.of_ask {op : Op} {resume : Answer op → Program Op Answer Result}
    {state final : State} {result : Result}
    (ended : Ends handle (.ask op resume) state result final) :
    ∃ choice, Ends handle (resume (handle choice op state).1)
      (handle choice op state).2 result final := by
  cases ended with
  | ask choice goesOn => exact ⟨choice, goesOn⟩

theorem Ends.of_bind {program : Program Op Answer Result}
    {next : Result → Program Op Answer Result'} {state final : State}
    {result : Result'}
    (ended : Ends handle (program >>= next) state result final) :
    ∃ value between, Ends handle program state value between ∧
      Ends handle (next value) between result final := by
  induction program generalizing state with
  | done value => exact ⟨value, state, .done, ended⟩
  | ask op resume induction =>
      obtain ⟨choice, goesOn⟩ := ended.of_ask
      obtain ⟨value, between, first, second⟩ := induction _ goesOn
      exact ⟨value, between, .ask choice first, second⟩

end Ends

section Safe

variable (handle : Choice → (op : Op) → State → Answer op × State)
variable (rely guarantee : State → State → Prop)

/-- Whatever the choices are, every answer keeps the guarantee and a result comes
with `post`, as long as the others keep the rely. -/
def Safe (post : Result → State → Prop) :
    Program Op Answer Result → State → Prop
  | .done result, state => ∀ later, rely state later → post result later
  | .ask op resume, state =>
      ∀ later, rely state later → ∀ choice,
        guarantee later (handle choice op later).2 ∧
          Safe post (resume (handle choice op later).1)
            (handle choice op later).2

variable {handle rely guarantee}

theorem Safe.stable {post : Result → State → Prop}
    {program : Program Op Answer Result} {state later : State}
    (trans : ∀ {first second third}, rely first second →
      rely second third → rely first third)
    (safe : program.Safe handle rely guarantee post state)
    (changed : rely state later) :
    program.Safe handle rely guarantee post later := by
  cases program with
  | done result =>
      intro last changes
      exact safe last (trans changed changes)
  | ask op resume =>
      intro last changes choice
      exact safe last (trans changed changes) choice

theorem Safe.mono {post weaker : Result → State → Prop}
    {program : Program Op Answer Result} {state : State}
    (weaken : ∀ result state, post result state → weaker result state)
    (safe : program.Safe handle rely guarantee post state) :
    program.Safe handle rely guarantee weaker state := by
  induction program generalizing state with
  | done result =>
      intro later changed
      exact weaken _ _ (safe later changed)
  | ask op resume induction =>
      intro later changed choice
      obtain ⟨kept, goesOn⟩ := safe later changed choice
      exact ⟨kept, induction _ goesOn⟩

/-- The rule of sequence. -/
theorem Safe.bind {post : Result' → State → Prop}
    {program : Program Op Answer Result}
    {next : Result → Program Op Answer Result'} {state : State}
    (refl : ∀ state, rely state state)
    (safe : program.Safe handle rely guarantee
      (fun result state => (next result).Safe handle rely guarantee post state)
      state) :
    (program >>= next).Safe handle rely guarantee post state := by
  induction program generalizing state with
  | done result => exact safe state (refl state)
  | ask op resume induction =>
      intro later changed choice
      obtain ⟨kept, goesOn⟩ := safe later changed choice
      exact ⟨kept, induction _ goesOn⟩

end Safe

/-! Programs that stop at the first failure. -/

section SafeExcept

variable {Failure Value Value' : Type}

def settle (post : Value → State → Prop) (failed : Failure → State → Prop) :
    Except Failure Value → State → Prop
  | .ok value => post value
  | .error failure => failed failure

variable (handle : Choice → (op : Op) → State → Answer op × State)
variable (rely guarantee : State → State → Prop)
variable (post : Value → State → Prop) (failed : Failure → State → Prop)

def SafeExcept (program : ExceptT Failure (Program Op Answer) Value)
    (state : State) : Prop :=
  program.run.Safe handle rely guarantee (settle post failed) state

variable {handle rely guarantee post failed}

theorem SafeExcept.bind {post : Value' → State → Prop}
    {program : ExceptT Failure (Program Op Answer) Value}
    {next : Value → ExceptT Failure (Program Op Answer) Value'} {state : State}
    (refl : ∀ state, rely state state)
    (safe : SafeExcept handle rely guarantee
      (fun value state =>
        SafeExcept handle rely guarantee post failed (next value) state)
      failed program state) :
    SafeExcept handle rely guarantee post failed (program >>= next) state := by
  unfold SafeExcept at safe ⊢
  rw [ExceptT.run_bind]
  generalize program.run = run at safe ⊢
  induction run generalizing state with
  | done result =>
      cases result with
      | ok value => exact safe state (refl state)
      | error failure => exact safe
  | ask op resume induction =>
      intro later changed choice
      obtain ⟨kept, goesOn⟩ := safe later changed choice
      exact ⟨kept, induction _ goesOn⟩

theorem SafeExcept.mono {weaker : Value → State → Prop}
    {program : ExceptT Failure (Program Op Answer) Value} {state : State}
    (weaken : ∀ value state, post value state → weaker value state)
    (safe : SafeExcept handle rely guarantee post failed program state) :
    SafeExcept handle rely guarantee weaker failed program state := by
  refine Safe.mono ?_ safe
  intro result state holds
  cases result with
  | ok value => exact weaken value state holds
  | error failure => exact holds

/-- One call, and the rest of the program after it. -/
theorem SafeExcept.query {op : Op}
    {next : Answer op → ExceptT Failure (Program Op Answer) Value}
    {state : State}
    (safe : ∀ later, rely state later → ∀ choice,
      guarantee later (handle choice op later).2 ∧
        SafeExcept handle rely guarantee post failed
          (next (handle choice op later).1) (handle choice op later).2) :
    SafeExcept handle rely guarantee post failed
      (liftM (query op) >>= next) state :=
  safe

theorem SafeExcept.pure {value : Value} {state : State}
    (stable : ∀ later, rely state later → post value later) :
    SafeExcept handle rely guarantee post failed (Pure.pure value) state :=
  stable

theorem SafeExcept.throw {failure : Failure} {state : State}
    (stable : ∀ later, rely state later → failed failure later) :
    SafeExcept handle rely guarantee post failed
      (MonadExcept.throw failure) state :=
  stable

end SafeExcept

end Program

/-- Whose turn it is, and what the environment decides for it. -/
inductive Turn (Id Choice Act : Type) where
  | advance (id : Id) (choice : Choice)
  | outside (act : Act)
  deriving Repr, DecidableEq

/-- What is left of every run, and what they share.  A run that has no turn any
more has been killed. -/
structure Pool (Id Op : Type) (Answer : Op → Type) (Result State : Type) where
  state : State
  run : Id → Program Op Answer Result

namespace Pool

variable {Id Op : Type} {Answer : Op → Type} {Result State Choice Act : Type}
variable [DecidableEq Id]

section Turns

variable (handle : Id → Choice → (op : Op) → State → Answer op × State)
variable (outside : Act → State → State)

def step (pool : Pool Id Op Answer Result State) :
    Turn Id Choice Act → Pool Id Op Answer Result State
  | .advance id choice =>
      match pool.run id with
      | .done _ => pool
      | .ask op resume =>
          let (answer, state) := handle id choice op pool.state
          { state, run := Function.update pool.run id (resume answer) }
  | .outside act => { pool with state := outside act pool.state }

def after (pool : Pool Id Op Answer Result State)
    (turns : List (Turn Id Choice Act)) : Pool Id Op Answer Result State :=
  turns.foldl (step handle outside) pool

@[simp] theorem after_nil (pool : Pool Id Op Answer Result State) :
    pool.after handle outside [] = pool :=
  rfl

theorem after_snoc (pool : Pool Id Op Answer Result State)
    (turns : List (Turn Id Choice Act)) (turn : Turn Id Choice Act) :
    pool.after handle outside (turns ++ [turn]) =
      (pool.after handle outside turns).step handle outside turn := by
  rw [after, List.foldl_append]
  rfl

/-- What every turn keeps holds after any turns. -/
theorem after_invariant {holds : Pool Id Op Answer Result State → Prop}
    {pool : Pool Id Op Answer Result State}
    (kept : ∀ pool turn, holds pool → holds (pool.step handle outside turn))
    (initially : holds pool) (turns : List (Turn Id Choice Act)) :
    holds (pool.after handle outside turns) := by
  induction turns using List.reverseRecOn with
  | nil => exact initially
  | append_singleton turns turn induction =>
      rw [after_snoc]
      exact kept _ _ induction

/-- The relies and guarantees of the runs fit together. -/
structure Compatible (rely guarantee : Id → State → State → Prop) : Prop where
  refl : ∀ id state, rely id state state
  trans : ∀ {id first second third}, rely id first second →
    rely id second third → rely id first third
  others : ∀ {id other before after}, other ≠ id →
    guarantee id before after → rely other before after
  outsiders : ∀ id act state, rely id state (outside act state)

end Turns

section Safety

variable {handle : Id → Choice → (op : Op) → State → Answer op × State}
variable {outside : Act → State → State}
variable {rely guarantee : Id → State → State → Prop}
variable {post : Id → Result → State → Prop}

variable (handle rely guarantee post) in
/-- Every run is safe for what it has left to do. -/
def Safe (pool : Pool Id Op Answer Result State) : Prop :=
  ∀ id, (pool.run id).Safe (handle id) (rely id) (guarantee id) (post id)
    pool.state

/-- A turn of a run keeps its guarantee, or there was nothing left to do. -/
theorem Safe.advance {pool : Pool Id Op Answer Result State}
    (compatible : Compatible outside rely guarantee)
    (safe : pool.Safe handle rely guarantee post) (id : Id) (choice : Choice) :
    (∃ result, pool.run id = .done result ∧
      pool.step handle outside (.advance id choice) = pool) ∨
    guarantee id pool.state
      (pool.step handle outside (.advance id choice)).state := by
  have mine := safe id
  simp only [Pool.step]
  cases running : pool.run id with
  | done result => exact .inl ⟨result, rfl, rfl⟩
  | ask op resume =>
      rw [running] at mine
      exact .inr (mine pool.state (compatible.refl id _) choice).1

theorem Safe.step {pool : Pool Id Op Answer Result State}
    (compatible : Compatible outside rely guarantee)
    (safe : pool.Safe handle rely guarantee post)
    (turn : Turn Id Choice Act) :
    (pool.step handle outside turn).Safe handle rely guarantee post := by
  intro other
  cases turn with
  | outside act =>
      exact (safe other).stable compatible.trans
        (compatible.outsiders other act pool.state)
  | advance id choice =>
      have mine := safe id
      simp only [Pool.step]
      cases running : pool.run id with
      | done result => exact safe other
      | ask op resume =>
          rw [running] at mine
          obtain ⟨kept, goesOn⟩ := mine pool.state (compatible.refl id _) choice
          by_cases same : other = id
          · subst same
            simp only [Function.update_self]
            exact goesOn
          · simp only [Function.update_of_ne same]
            exact (safe other).stable compatible.trans
              (compatible.others same kept)

/-- The parallel rule: runs that are safe one by one, and fit together, are safe
after any turns. -/
theorem Safe.after {pool : Pool Id Op Answer Result State}
    (compatible : Compatible outside rely guarantee)
    (safe : pool.Safe handle rely guarantee post)
    (turns : List (Turn Id Choice Act)) :
    (pool.after handle outside turns).Safe handle rely guarantee post := by
  refine after_invariant handle outside ?_ safe turns
  intro _ turn safe
  exact safe.step compatible turn

omit [DecidableEq Id] in
theorem Safe.result {pool : Pool Id Op Answer Result State}
    (compatible : Compatible outside rely guarantee)
    (safe : pool.Safe handle rely guarantee post) {id : Id} {result : Result}
    (finished : pool.run id = .done result) : post id result pool.state := by
  have mine := safe id
  rw [finished] at mine
  exact mine pool.state (compatible.refl id _)

end Safety

end Pool

end Bowerbird.Foundation
