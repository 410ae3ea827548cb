import Mathlib.Data.List.Basic

namespace Bowerbird.Foundation

/-! Transactions that may fail at any statement.  The statements work on a copy
of the durable store; only `commit` publishes the copy, so whatever else ends
the transaction, an error or an early return, rolls it back. -/

structure TxState (Store : Type) where
  durable : Store
  working : Store
  executed : Nat

/-- A fault plan says which statements fail, by their number in the run. -/
abbrev FaultPlan := Nat → Bool

def FaultPlan.none : FaultPlan := fun _ => false

def Tx (Store Error Result : Type) : Type :=
  FaultPlan → TxState Store → Except Error Result × TxState Store

namespace Tx

variable {Store Error Result Result' : Type}

def done (result : Result) : Tx Store Error Result :=
  fun _ state => (.ok result, state)

def andThen (first : Tx Store Error Result)
    (next : Result → Tx Store Error Result') : Tx Store Error Result' :=
  fun faults state =>
    match first faults state with
    | (.error error, state') => (.error error, state')
    | (.ok result, state') => next result faults state'

instance : Monad (Tx Store Error) where
  pure := done
  bind := andThen

def raise (error : Error) : Tx Store Error Result :=
  fun _ state => (.error error, state)

/-- One statement on the working copy, failing with `error` when planned. -/
def statement (error : Error) (effect : Store → Result × Store) :
    Tx Store Error Result :=
  fun faults state =>
    let executed := state.executed + 1
    if faults state.executed then
      (.error error, { state with executed })
    else
      let (result, working) := effect state.working
      (.ok result, { state with working, executed })

def query (error : Error) (read : Store → Result) : Tx Store Error Result :=
  statement error fun store => (read store, store)

def execute (error : Error) (update : Store → Store) : Tx Store Error Unit :=
  statement error fun store => ((), update store)

def commit (error : Error) : Tx Store Error Unit :=
  fun faults state =>
    let executed := state.executed + 1
    if faults state.executed then
      (.error error, { state with executed })
    else
      (.ok (), { state with durable := state.working, executed })

/-- Run a transaction on a store: its result and the store it leaves behind. -/
def run (faults : FaultPlan) (transaction : Tx Store Error Result)
    (store : Store) : Except Error Result × Store :=
  let (result, state) :=
    transaction faults { durable := store, working := store, executed := 0 }
  (result, state.durable)

@[simp] theorem pure_apply (result : Result) (faults : FaultPlan)
    (state : TxState Store) :
    (pure result : Tx Store Error Result) faults state = (.ok result, state) :=
  rfl

theorem bind_apply (first : Tx Store Error Result)
    (next : Result → Tx Store Error Result') (faults : FaultPlan)
    (state : TxState Store) :
    (first >>= next) faults state =
      match first faults state with
      | (.error error, state') => (.error error, state')
      | (.ok result, state') => next result faults state' :=
  rfl

/-! Two judgements describe a program up to planned faults.  A program prepares
an effect when it only works on the copy; it settles an outcome when the outcome
also says what becomes of the durable store. -/

def Faulted (faults : FaultPlan) (before : TxState Store)
    (outcome : Except Error Result × TxState Store) : Prop :=
  (∃ error, outcome.1 = .error error) ∧
    outcome.2.durable = before.durable ∧ ∃ number, faults number = true

def Prepares (program : Tx Store Error Result)
    (effect : Store → Result × Store) : Prop :=
  ∀ faults state,
    Faulted faults state (program faults state) ∨
      ∃ executed, program faults state =
        (.ok (effect state.working).1,
          { state with working := (effect state.working).2, executed })

/-- The outcome names the new durable store, or nothing when it stays. -/
def Settles (program : Tx Store Error Result)
    (outcome : Store → Except Error Result × Option Store) : Prop :=
  ∀ faults state,
    Faulted faults state (program faults state) ∨
      (program faults state).1 = (outcome state.working).1 ∧
      (program faults state).2.durable =
        (outcome state.working).2.getD state.durable

theorem Prepares.pure (result : Result) :
    Prepares (pure result : Tx Store Error Result)
      (fun store => (result, store)) :=
  fun _ state => .inr ⟨state.executed, rfl⟩

theorem Prepares.statement (error : Error)
    (effect : Store → Result × Store) :
    Prepares (statement error effect) effect := by
  intro faults state
  by_cases planned : faults state.executed = true
  · exact .inl ⟨⟨error, by simp [Tx.statement, planned]⟩,
      by simp [Tx.statement, planned], state.executed, planned⟩
  · exact .inr ⟨state.executed + 1, by simp [Tx.statement, planned]⟩

theorem Prepares.query (error : Error) (read : Store → Result) :
    Prepares (query error read) (fun store => (read store, store)) :=
  Prepares.statement error _

theorem Prepares.execute (error : Error) (update : Store → Store) :
    Prepares (execute error update) (fun store => ((), update store)) :=
  Prepares.statement error _

theorem Prepares.bind {first : Tx Store Error Result}
    {next : Result → Tx Store Error Result'}
    {effect : Store → Result × Store}
    {effect' : Result → Store → Result' × Store}
    (hfirst : Prepares first effect)
    (hnext : ∀ result, Prepares (next result) (effect' result)) :
    Prepares (first >>= next)
      (fun store => effect' (effect store).1 (effect store).2) := by
  intro faults state
  rw [bind_apply]
  rcases hfirst faults state with ⟨⟨error, failed⟩, kept⟩ | ⟨executed, done⟩
  · refine .inl ⟨⟨error, ?_⟩, ?_⟩
    · generalize first faults state = outcome at failed
      obtain ⟨result, state'⟩ := outcome
      cases failed
      rfl
    · generalize first faults state = outcome at failed kept
      obtain ⟨result, state'⟩ := outcome
      cases failed
      exact kept
  · rw [done]
    exact hnext _ faults _

theorem Prepares.ite {condition : Prop} [Decidable condition]
    {first second : Tx Store Error Result}
    {effect effect' : Store → Result × Store}
    (hfirst : Prepares first effect) (hsecond : Prepares second effect') :
    Prepares (if condition then first else second)
      (fun store => if condition then effect store else effect' store) := by
  by_cases holds : condition
  · simpa [holds] using hfirst
  · simpa [holds] using hsecond

theorem Prepares.congr {program : Tx Store Error Result}
    {effect effect' : Store → Result × Store}
    (prepares : Prepares program effect)
    (same : ∀ store, effect store = effect' store) :
    Prepares program effect' := by
  rw [← funext same]
  exact prepares

/-- A transaction dropped without a commit leaves the durable store alone. -/
theorem Prepares.settles {program : Tx Store Error Result}
    {effect : Store → Result × Store} (prepares : Prepares program effect) :
    Settles program (fun store => (.ok (effect store).1, none)) := by
  intro faults state
  rcases prepares faults state with faulted | ⟨executed, done⟩
  · exact .inl faulted
  · exact .inr ⟨by rw [done], by rw [done]; rfl⟩

theorem Settles.raise (error : Error) :
    Settles (raise error : Tx Store Error Result)
      (fun _ => (.error error, none)) :=
  fun _ _ => .inr ⟨rfl, rfl⟩

theorem Settles.commit (error : Error) (answer : Result) :
    Settles (do commit error; return answer : Tx Store Error Result)
      (fun store => (.ok answer, some store)) := by
  intro faults state
  rw [bind_apply]
  by_cases planned : faults state.executed = true
  · exact .inl ⟨⟨error, by simp [Tx.commit, planned]⟩,
      by simp [Tx.commit, planned], state.executed, planned⟩
  · exact .inr ⟨by simp [Tx.commit, planned], by simp [Tx.commit, planned]⟩

theorem Settles.after {first : Tx Store Error Result}
    {next : Result → Tx Store Error Result'}
    {effect : Store → Result × Store}
    {outcome : Result → Store → Except Error Result' × Option Store}
    (hfirst : Prepares first effect)
    (hnext : ∀ result, Settles (next result) (outcome result)) :
    Settles (first >>= next)
      (fun store => outcome (effect store).1 (effect store).2) := by
  intro faults state
  rw [bind_apply]
  rcases hfirst faults state with ⟨⟨error, failed⟩, kept⟩ | ⟨executed, done⟩
  · refine .inl ⟨⟨error, ?_⟩, ?_⟩
    · generalize first faults state = result at failed
      obtain ⟨result, state'⟩ := result
      cases failed
      rfl
    · generalize first faults state = result at failed kept
      obtain ⟨result, state'⟩ := result
      cases failed
      exact kept
  · rw [done]
    exact hnext _ faults _

theorem Settles.ite {condition : Prop} [Decidable condition]
    {first second : Tx Store Error Result}
    {outcome outcome' : Store → Except Error Result × Option Store}
    (hfirst : Settles first outcome) (hsecond : Settles second outcome') :
    Settles (if condition then first else second)
      (fun store => if condition then outcome store else outcome' store) := by
  by_cases holds : condition
  · simpa [holds] using hfirst
  · simpa [holds] using hsecond

theorem Settles.congr {program : Tx Store Error Result}
    {outcome outcome' : Store → Except Error Result × Option Store}
    (settles : Settles program outcome)
    (same : ∀ store, outcome store = outcome' store) :
    Settles program outcome' := by
  rw [← funext same]
  exact settles

/-- A settled transaction either fails and changes nothing or does all of its
outcome. -/
theorem Settles.run {program : Tx Store Error Result}
    {outcome : Store → Except Error Result × Option Store}
    (settles : Settles program outcome) (faults : FaultPlan) (store : Store) :
    (∃ error, run faults program store = (.error error, store)) ∨
      run faults program store =
        ((outcome store).1, (outcome store).2.getD store) := by
  rcases settles faults ⟨store, store, 0⟩ with ⟨⟨error, failed⟩, kept, _⟩ | done
  · exact .inl ⟨error, Prod.ext failed kept⟩
  · exact .inr (Prod.ext done.1 done.2)

theorem Settles.run_none {program : Tx Store Error Result}
    {outcome : Store → Except Error Result × Option Store}
    (settles : Settles program outcome) (store : Store) :
    Tx.run FaultPlan.none program store =
      ((outcome store).1, (outcome store).2.getD store) := by
  rcases settles FaultPlan.none ⟨store, store, 0⟩ with ⟨_, _, _, planned⟩ | done
  · cases planned
  · exact Prod.ext done.1 done.2

end Tx

end Bowerbird.Foundation
