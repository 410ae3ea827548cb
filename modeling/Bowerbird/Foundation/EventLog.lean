import Mathlib.Data.List.Basic
import Mathlib.Data.List.Forall2

namespace Bowerbird.Foundation

/-! Event-sourced state: the log is the truth, and the state of a key is the fold
of one transition function over the events of that key, from nothing. -/

namespace EventLog

variable {Event Key State : Type} [DecidableEq Key]
variable (key : Event → Key) (step : Option State → Event → State)

def fold (events : List Event) : Option State :=
  events.foldl (fun state event => some (step state event)) none

def ofKey (wanted : Key) (log : List Event) : List Event :=
  log.filter fun event => key event = wanted

/-- The state of a key after a log. -/
def view (log : List Event) (wanted : Key) : Option State :=
  fold step (ofKey key wanted log)

variable {key step} {log : List Event} {event : Event} {wanted : Key}

theorem fold_append_single (events : List Event) (event : Event) :
    fold step (events ++ [event]) = some (step (fold step events) event) := by
  simp [fold]

theorem ofKey_append (log later : List Event) :
    ofKey key wanted (log ++ later) =
      ofKey key wanted log ++ ofKey key wanted later := by
  simp [ofKey]

@[simp] theorem ofKey_single_self :
    ofKey key (key event) [event] = [event] := by
  simp [ofKey]

theorem ofKey_single_ne (distinct : key event ≠ wanted) :
    ofKey key wanted [event] = [] := by
  simp [ofKey, distinct]

/-- No event of a key, no log of it. -/
theorem ofKey_of_not_mem {events : List Event}
    (absent : wanted ∉ events.map key) : ofKey key wanted events = [] := by
  refine List.filter_eq_nil_iff.mpr ?_
  intro event member same
  exact absent (List.mem_map.mpr ⟨event, member, of_decide_eq_true same⟩)

/-- Of events with different keys, one is the log of its key. -/
theorem ofKey_of_nodup {events : List Event} (nodup : (events.map key).Nodup)
    (present : wanted ∈ events.map key) :
    ∃ event ∈ events, ofKey key wanted events = [event] := by
  induction events with
  | nil => cases present
  | cons head rest induction =>
      rw [List.map_cons, List.nodup_cons] at nodup
      rw [List.map_cons, List.mem_cons] at present
      by_cases same : key head = wanted
      · subst same
        refine ⟨head, List.mem_cons_self, ?_⟩
        have others := ofKey_of_not_mem nodup.1
        rw [ofKey, List.filter_cons_of_pos (by simp)]
        exact congrArg _ others
      · obtain ⟨event, member, own⟩ := induction nodup.2
          (present.resolve_left fun here => same here.symm)
        refine ⟨event, List.mem_cons_of_mem _ member, ?_⟩
        rw [ofKey, List.filter_cons_of_neg (by simpa using same)]
        exact own

theorem view_append_self :
    view key step (log ++ [event]) (key event) =
      some (step (view key step log (key event)) event) := by
  simp [view, ofKey_append, fold_append_single]

theorem view_append_ne (distinct : key event ≠ wanted) :
    view key step (log ++ [event]) wanted = view key step log wanted := by
  simp [view, ofKey_append, ofKey_single_ne distinct]

theorem fold_eq_none {events : List Event} :
    fold step events = none ↔ events = [] := by
  rcases events.eq_nil_or_concat with rfl | ⟨before, last, rfl⟩
  · simp [fold]
  · rw [List.concat_eq_append, fold_append_single]
    simp

section Related

variable {Event' State' : Type} {step' : Option State' → Event' → State'}
variable {copies : Event → Event' → Prop} {log' : List Event'}
variable (agree : Option State → Option State' → Prop)
variable (steps : ∀ state state' event event', agree state state' →
  copies event event' →
    agree (some (step state event)) (some (step' state' event')))
include steps

theorem foldl_related {state : Option State} {state' : Option State'}
    (initially : agree state state') (logs : List.Forall₂ copies log log') :
    agree (log.foldl (fun state event => some (step state event)) state)
      (log'.foldl (fun state event => some (step' state event)) state') := by
  induction logs generalizing state state' with
  | nil => exact initially
  | cons copied _ induction =>
      exact induction (steps state state' _ _ initially copied)

/-- Two folds agree at the end of two logs that agree event by event, when each
step keeps them in agreement. -/
theorem fold_related (initially : agree none none)
    (logs : List.Forall₂ copies log log') :
    agree (fold step log) (fold step' log') :=
  foldl_related agree steps initially logs

end Related

/-- Exactly the keys with an event have a state. -/
theorem view_isSome :
    (view key step log wanted).isSome ↔ ∃ event ∈ log, key event = wanted := by
  rw [Option.isSome_iff_ne_none, ne_eq, view, fold_eq_none]
  simp [ofKey]

end EventLog

end Bowerbird.Foundation
