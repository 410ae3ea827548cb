import Mathlib.Data.List.Basic
import Mathlib.Tactic.Common

namespace Bowerbird.Foundation

/-! A bounded broadcast channel.  The sender appends to a log; every receiver
has a position of its own.  A receiver that is more than `capacity` messages
behind has lost the oldest of them: its next receive reports how many and moves
it to the oldest message still held. -/

namespace Broadcast

variable {Message : Type}

inductive Received (Message : Type) where
  | message (message : Message)
  | lagged (missed : Nat)
  | empty
  deriving Repr, DecidableEq

def receive (log : List Message) (capacity next : Nat) :
    Received Message × Nat :=
  if next + capacity < log.length then
    (.lagged (log.length - capacity - next), log.length - capacity)
  else
    match log[next]? with
    | some message => (.message message, next + 1)
    | none => (.empty, next)

/-- The messages that a lagging receive skips. -/
def skipped (log : List Message) (next missed : Nat) : List Message :=
  (log.drop next).take missed

variable {log : List Message} {capacity next next' : Nat}

theorem receive_message {message : Message}
    (received : receive log capacity next = (.message message, next')) :
    log[next]? = some message ∧ next' = next + 1 := by
  unfold receive at received
  split at received
  · simp at received
  · split at received
    · rename_i found
      simp only [Prod.mk.injEq, Received.message.injEq] at received
      obtain ⟨rfl, rfl⟩ := received
      exact ⟨found, rfl⟩
    · simp at received

theorem receive_empty
    (received : receive log capacity next = (.empty, next')) :
    log.length ≤ next ∧ next' = next := by
  unfold receive at received
  split at received
  · simp at received
  · split at received
    · simp at received
    · rename_i absent
      simp only [Prod.mk.injEq, true_and] at received
      exact ⟨List.getElem?_eq_none_iff.mp absent, received.symm⟩

theorem receive_lagged {missed : Nat}
    (received : receive log capacity next = (.lagged missed, next')) :
    0 < missed ∧ next' = next + missed ∧ next + missed ≤ log.length := by
  unfold receive at received
  split at received
  · simp only [Prod.mk.injEq, Received.lagged.injEq] at received
    omega
  · split at received <;> simp at received

theorem lt_length_of_getElem? {message : Message}
    (found : log[next]? = some message) : next < log.length :=
  (List.getElem?_eq_some_iff.mp found).1

/-- What a receiver still has to come, split at the message it takes. -/
theorem drop_of_getElem? {message : Message}
    (found : log[next]? = some message) :
    log.drop next = message :: log.drop (next + 1) := by
  obtain ⟨bound, rfl⟩ := List.getElem?_eq_some_iff.mp found
  exact List.drop_eq_getElem_cons bound

theorem skipped_append_drop (log : List Message) (next missed : Nat) :
    skipped log next missed ++ log.drop (next + missed) = log.drop next := by
  simp only [skipped, ← List.drop_drop]
  exact List.take_append_drop missed (log.drop next)

theorem length_skipped {missed : Nat} (within : next + missed ≤ log.length) :
    (skipped log next missed).length = missed := by
  simp only [skipped, List.length_take, List.length_drop]
  omega

end Broadcast

end Bowerbird.Foundation
