import Mathlib.Data.List.Basic

namespace Bowerbird.Foundation

/-! A bounded channel with one receiver.  Sending never waits: it fails when the
channel is full, and for good once the receiver is gone. -/

structure Channel (Item : Type) where
  capacity : Nat
  items : List Item
  closed : Bool
  bounded : items.length ≤ capacity
  deriving DecidableEq

inductive TrySendError where
  | full
  | closed
  deriving Repr, DecidableEq

namespace Channel

variable {Item : Type} {channel next : Channel Item} {item : Item}

def empty (Item : Type) (capacity : Nat) : Channel Item :=
  { capacity, items := [], closed := false, bounded := Nat.zero_le _ }

def trySend (channel : Channel Item) (item : Item) :
    Except TrySendError (Channel Item) :=
  if channel.closed then .error .closed
  else if room : channel.items.length < channel.capacity then
    .ok { channel with
      items := channel.items ++ [item]
      bounded := by
        rw [List.length_append]
        exact room }
  else .error .full

def tryRecv (channel : Channel Item) : Option (Item × Channel Item) :=
  match waiting : channel.items with
  | [] => none
  | item :: rest =>
      some (item, { channel with
        items := rest
        bounded := by
          have bounded := channel.bounded
          rw [waiting, List.length_cons] at bounded
          omega })

/-- The receiver goes, and what still waits goes with it. -/
def drop (channel : Channel Item) : Channel Item :=
  { channel with items := [], closed := true, bounded := Nat.zero_le _ }

theorem trySend_ok (sent : channel.trySend item = .ok next) :
    channel.closed = false ∧ next.closed = false ∧
      next.capacity = channel.capacity ∧
      next.items = channel.items ++ [item] := by
  unfold trySend at sent
  split at sent
  · cases sent
  · rename_i unclosed
    split at sent
    · cases sent
      simp only [Bool.not_eq_true] at unclosed
      exact ⟨unclosed, unclosed, rfl, rfl⟩
    · cases sent

@[simp] theorem trySend_closed (closed : channel.closed = true) :
    channel.trySend item = .error .closed :=
  if_pos closed

theorem trySend_room (opened : channel.closed = false)
    (room : channel.items.length < channel.capacity) :
    ∃ next, channel.trySend item = .ok next := by
  unfold trySend
  rw [if_neg (by simp [opened]), dif_pos room]
  exact ⟨_, rfl⟩

theorem tryRecv_some (received : channel.tryRecv = some (item, next)) :
    channel.items = item :: next.items ∧ next.closed = channel.closed ∧
      next.capacity = channel.capacity := by
  unfold tryRecv at received
  split at received
  · cases received
  · rename_i waiting
    cases received
    exact ⟨waiting, rfl, rfl⟩

theorem tryRecv_none : channel.tryRecv = none ↔ channel.items = [] := by
  unfold tryRecv
  split
  · rename_i waiting
    simp [waiting]
  · rename_i waiting
    simp [waiting]

end Channel

end Bowerbird.Foundation
