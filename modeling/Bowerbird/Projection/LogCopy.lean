import Bowerbird.Projection.Rebuild

namespace Bowerbird.Projection

open Protocol Foundation

/-! A log and its copy, with ids and times of its own, lead to the same states. -/

/-- The same event under another id and time. -/
def Copies (row copy : Db.EventRow) : Prop :=
  copy = { row with eventId := copy.eventId, createdAt := copy.createdAt }

instance (row copy : Db.EventRow) : Decidable (Copies row copy) :=
  inferInstanceAs (Decidable (copy = _))

/-- What a state says of its session, but for its times. -/
structure Summary where
  currentState : SessionCurrentState
  lastEventKind : EventKind
  lastPid : Option Nat
  cwd : Option String
  deriving Repr, DecidableEq

def summary (state : SessionState) : Summary :=
  { currentState := state.currentState
    lastEventKind := state.lastEventKind
    lastPid := state.lastPid
    cwd := state.cwd }

section Summary

variable {parseValue : String → Option Json.Value}
variable {state other : Option SessionState}

theorem nextCurrentState_summary
    (agree : state.map summary = other.map summary) (kind : EventKind)
    (notificationType : Option NotificationType) :
    nextCurrentState state kind notificationType =
      nextCurrentState other kind notificationType := by
  have current : state.map SessionState.currentState =
      other.map SessionState.currentState := by
    have mapped := congrArg (Option.map Summary.currentState) agree
    rw [Option.map_map, Option.map_map] at mapped
    exact mapped
  unfold nextCurrentState
  rw [current]

theorem transition_summary (agree : state.map summary = other.map summary)
    (kind : EventKind) (notificationType : Option NotificationType)
    (pid : Option Nat) (cwd : Option String) (nowMs later : Int) :
    summary (transition state kind notificationType pid cwd nowMs) =
      summary (transition other kind notificationType pid cwd later) := by
  have next := nextCurrentState_summary agree kind notificationType
  cases state with
  | none =>
      cases other with
      | none =>
          unfold transition
          split <;> rfl
      | some other => cases agree
  | some state =>
      cases other with
      | none => cases agree
      | some other =>
          obtain ⟨current, last, lastPid, lastCwd⟩ :=
            Summary.mk.inj (Option.some.inj agree)
          unfold transition
          rw [next]
          split
          · simp only [summary, Option.bind_some, lastPid, lastCwd]
          · simp only [summary, Option.bind_some, current, last, lastPid,
              lastCwd]

theorem replayStep_summary {row copy : Db.EventRow}
    (agree : state.map summary = other.map summary) (copied : Copies row copy) :
    summary (replayStep parseValue state row) =
      summary (replayStep parseValue other copy) := by
  rw [copied]
  exact transition_summary agree _ _ _ _ _ _

/-- The projection of a session depends on its log's contents alone. -/
theorem logView_summary {db copy : Db} {key : SessionKey}
    (logs : List.Forall₂ Copies (EventLog.ofKey Db.EventRow.key key db.events)
      (EventLog.ofKey Db.EventRow.key key copy.events)) :
    (logView parseValue db key).map summary =
      (logView parseValue copy key).map summary := by
  refine EventLog.fold_related
    (fun state other => state.map summary = other.map summary) ?_ rfl logs
  intro state other row copied agree copies
  exact congrArg some (replayStep_summary agree copies)

theorem keys_of_copies {rows copies : List Db.EventRow}
    (logs : List.Forall₂ Copies rows copies) :
    copies.map Db.EventRow.key = rows.map Db.EventRow.key := by
  induction logs with
  | nil => rfl
  | @cons row copy _ _ copied _ induction =>
      have own : copy.key = row.key := by
        rw [copied]
        rfl
      rw [List.map_cons, List.map_cons, own, induction]

/-- The copy holds no row of another session. -/
theorem ofKey_of_copies {rows copies : List Db.EventRow} {key : SessionKey}
    (own : ∀ row ∈ rows, row.key = key)
    (logs : List.Forall₂ Copies rows copies) :
    ∀ copy ∈ copies, copy.key = key := by
  intro copy member
  have listed : copy.key ∈ rows.map Db.EventRow.key := by
    rw [← keys_of_copies logs]
    exact List.mem_map_of_mem member
  obtain ⟨row, inside, same⟩ := List.mem_map.mp listed
  rw [← same]
  exact own row inside

end Summary

end Bowerbird.Projection
