import Bowerbird.Foundation.Directory
import Bowerbird.Foundation.Interference

namespace Bowerbird.Foundation.Directory

open Program

/-! Programs of calls on a directory, up to the first call that fails. -/

abbrev Action (Name Failure Value : Type) : Type :=
  ExceptT Failure (Program (Call Name) Call.Answer) Value

variable {Name Failure Value : Type}

def request (call : Call Name) : Action Name Failure call.Answer :=
  ExceptT.lift (query call)

def attempt (call : Call Name) (failure : Failure) :
    Action Name Failure call.Value := do
  match ← request call with
  | .ok value => pure value
  | .error _ => throw failure

/-- Write until everything is written.  A write that takes nothing is a failure
too. -/
def writeAll (inode : Nat) (failure : Failure) :
    List UInt8 → Action Name Failure Unit
  | [] => pure ()
  | byte :: rest => do
      match ← attempt (.write inode (byte :: rest)) failure with
      | 0 => throw failure
      | taken + 1 => writeAll inode failure (rest.drop taken)
termination_by bytes => bytes.length
decreasing_by
  rw [List.length_drop, List.length_cons]
  omega

section Rules

variable {State Choice : Type}
variable {handle : Choice → (call : Call Name) → State → call.Answer × State}
variable {rely guarantee : State → State → Prop}
variable {post : Value → State → Prop} {failed : Failure → State → Prop}
variable {failure : Failure} {state : State}

theorem request_bind {call : Call Name}
    {next : call.Answer → Action Name Failure Value}
    (safe : ∀ later, rely state later → ∀ choice,
      guarantee later (handle choice call later).2 ∧
        SafeExcept handle rely guarantee post failed
          (next (handle choice call later).1) (handle choice call later).2) :
    SafeExcept handle rely guarantee post failed
      (request call >>= next) state :=
  SafeExcept.query safe

theorem attempt_bind {call : Call Name}
    {next : call.Value → Action Name Failure Value}
    (kept : ∀ later, rely state later → ∀ choice,
      guarantee later (handle choice call later).2)
    (goesOn : ∀ later, rely state later → ∀ choice value,
      (handle choice call later).1 = .ok value →
        SafeExcept handle rely guarantee post failed (next value)
          (handle choice call later).2)
    (stops : ∀ later, rely state later → ∀ choice error,
      (handle choice call later).1 = .error error →
        ∀ last, rely (handle choice call later).2 last → failed failure last) :
    SafeExcept handle rely guarantee post failed
      (attempt call failure >>= next) state := by
  intro later changed choice
  refine ⟨kept later changed choice, ?_⟩
  cases answer : (handle choice call later).1 with
  | ok value => exact goesOn later changed choice value answer
  | error error => exact stops later changed choice error answer

/-- The rule of the write loop: an invariant of what has been written, kept by
every write of some more. -/
theorem writeAll_safe (holds : List UInt8 → State → Prop) {inode : Nat}
    (stable : ∀ {written state later}, holds written state →
      rely state later → holds written later)
    (writes : ∀ written bytes state choice, holds written state →
      guarantee state (handle choice (.write inode bytes) state).2 ∧
      ((∃ error, (handle choice (.write inode bytes) state).1 = .error error ∧
          holds written (handle choice (.write inode bytes) state).2) ∨
        ∃ taken ≤ bytes.length,
          (handle choice (.write inode bytes) state).1 = .ok taken ∧
          holds (written ++ bytes.take taken)
            (handle choice (.write inode bytes) state).2))
    (fails : ∀ written state, holds written state → failed failure state)
    (bytes written : List UInt8) {start : State}
    (initially : holds written start) :
    SafeExcept handle rely guarantee
      (fun _ state => holds (written ++ bytes) state) failed
      (writeAll inode failure bytes) start := by
  match bytes with
  | [] =>
      rw [writeAll, List.append_nil]
      exact SafeExcept.pure fun later changed => stable initially changed
  | byte :: rest =>
      rw [writeAll]
      refine attempt_bind ?_ ?_ ?_
      · intro later changed choice
        exact (writes _ _ later choice (stable initially changed)).1
      · intro later changed choice value answer
        obtain ⟨_, ⟨error, refused, _⟩ | ⟨taken, fits, took, holds'⟩⟩ :=
          writes written (byte :: rest) later choice (stable initially changed)
        · rw [refused] at answer
          cases answer
        · rw [took] at answer
          have same : taken = value := Except.ok.inj answer
          subst same
          cases taken with
          | zero =>
              refine SafeExcept.throw fun last changes => ?_
              exact fails _ _ (stable holds' changes)
          | succ taken =>
              have goesOn := writeAll_safe holds stable writes fails
                (rest.drop taken) _ holds'
              rw [List.append_assoc, List.take_succ_cons, List.cons_append,
                List.take_append_drop] at goesOn
              exact goesOn
      · intro later changed choice error answer last changes
        obtain ⟨_, ⟨_, _, holds'⟩ | ⟨taken, _, took, _⟩⟩ :=
          writes written (byte :: rest) later choice (stable initially changed)
        · exact fails _ _ (stable holds' changes)
        · rw [took] at answer
          cases answer
termination_by bytes.length
decreasing_by
  rw [List.length_drop, List.length_cons]
  omega

end Rules

end Bowerbird.Foundation.Directory
