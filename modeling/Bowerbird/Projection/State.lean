import Bowerbird.Protocol.Event
import Mathlib.Algebra.Group.Int.Defs
import Mathlib.Tactic.Common

namespace Bowerbird.Projection

open Protocol

/-! The session state machine: pure functions of the previous state and one
event, with the clock as an input. -/

/-- Read-time window after which a stored `Working` reads as `Idle`. -/
def staleWorkingMs : Int := 300000

def i64Min : Int := -(2 ^ 63)

def i64Max : Int := 2 ^ 63 - 1

def i64SaturatingSub (left right : Int) : Int :=
  max i64Min (min i64Max (left - right))

/-- The state that an event of a kind outside the daemon's lifecycle leads to. -/
def nextCurrentState (prev : Option SessionState) (eventKind : EventKind)
    (notificationType : Option NotificationType) :
    Option SessionCurrentState :=
  match eventKind with
  | .userPromptSubmit => some .working
  | .preToolUse => some .working
  | .postToolUse => some .working
  | .stop => some .idle
  | .notification =>
      match notificationType with
      | some .permissionPrompt | some .elicitationDialog => some .waitingInput
      | some .idlePrompt =>
          match prev.map SessionState.currentState with
          | some .waitingInput => some .waitingInput
          | _ => some .idle
      | some .authSuccess | some .elicitationResponse
      | some .elicitationComplete | some .unknown | none =>
          match prev.map SessionState.currentState with
          | some .ended | none => some .idle
          | some other => some other
  | .sessionEnded => some .ended
  | .recordingStarted | .recordingEnded | .unknown => none

def transition (prev : Option SessionState) (eventKind : EventKind)
    (notificationType : Option NotificationType) (pid : Option Nat)
    (cwd : Option String) (nowMs : Int) : SessionState :=
  let nextLastPid := pid.or (prev.bind (·.lastPid))
  let nextCwd := cwd.or (prev.bind (·.cwd))
  let nextStartedAt := (prev.bind (·.startedAt)).or (some nowMs)
  match nextCurrentState prev eventKind notificationType with
  | some nextCurrent =>
      { currentState := nextCurrent
        lastEventKind := eventKind
        lastEventAtMs := nowMs
        lastPid := nextLastPid
        cwd := nextCwd
        startedAt := nextStartedAt }
  | none =>
      -- the defensive arm: a lifecycle or undecodable kind keeps the prior state
      match prev with
      | some state =>
          { state with
            lastPid := nextLastPid
            cwd := nextCwd
            startedAt := nextStartedAt }
      | none =>
          { currentState := .idle
            lastEventKind := eventKind
            lastEventAtMs := nowMs
            lastPid := nextLastPid
            cwd := nextCwd
            startedAt := nextStartedAt }

def currentStateForRead (stored : SessionState) (nowMs : Int) :
    SessionCurrentState :=
  let ageMs := i64SaturatingSub nowMs stored.lastEventAtMs
  if stored.currentState = .working ∧ ageMs > staleWorkingMs then .idle
  else stored.currentState

section Transition

variable (prev : Option SessionState) (eventKind : EventKind)
variable (notificationType : Option NotificationType)
variable (pid : Option Nat) (cwd : Option String) (nowMs : Int)

@[simp] theorem transition_lastPid :
    (transition prev eventKind notificationType pid cwd nowMs).lastPid =
      pid.or (prev.bind (·.lastPid)) := by
  unfold transition
  split
  · rfl
  · split <;> rfl

@[simp] theorem transition_cwd :
    (transition prev eventKind notificationType pid cwd nowMs).cwd =
      cwd.or (prev.bind (·.cwd)) := by
  unfold transition
  split
  · rfl
  · split <;> rfl

@[simp] theorem transition_startedAt :
    (transition prev eventKind notificationType pid cwd nowMs).startedAt =
      (prev.bind (·.startedAt)).or (some nowMs) := by
  unfold transition
  split
  · rfl
  · split <;> rfl

/-- Only notifications look at the notification type. -/
theorem transition_notificationType
    {other : Option NotificationType}
    (same : eventKind = .notification → notificationType = other) :
    transition prev eventKind notificationType pid cwd nowMs =
      transition prev eventKind other pid cwd nowMs := by
  by_cases notification : eventKind = .notification
  · rw [same notification]
  · cases eventKind <;> first | rfl | exact absurd rfl notification

@[simp] theorem transition_sessionEnded :
    (transition prev .sessionEnded notificationType pid cwd
      nowMs).currentState = .ended := rfl

/-- The new state is dated by the clock or keeps the date of the old one. -/
theorem transition_lastEventAtMs :
    (transition prev eventKind notificationType pid cwd nowMs).lastEventAtMs =
        nowMs ∨
      ∃ state, prev = some state ∧
        (transition prev eventKind notificationType pid cwd
          nowMs).lastEventAtMs = state.lastEventAtMs := by
  unfold transition
  split
  · exact .inl rfl
  · cases prev with
    | none => exact .inl rfl
    | some state => exact .inr ⟨state, rfl, rfl⟩

end Transition

/-! Staleness is monotone in the clock. -/

def isStale (stored : SessionState) (nowMs : Int) : Prop :=
  nowMs - stored.lastEventAtMs > staleWorkingMs

instance (stored : SessionState) (nowMs : Int) :
    Decidable (isStale stored nowMs) :=
  inferInstanceAs (Decidable (_ > _))

theorem i64SaturatingSub_gt_stale (left right : Int) :
    i64SaturatingSub left right > staleWorkingMs ↔
      left - right > staleWorkingMs := by
  simp only [i64SaturatingSub, staleWorkingMs, i64Min, i64Max]
  omega

theorem currentStateForRead_eq (stored : SessionState) (nowMs : Int) :
    currentStateForRead stored nowMs =
      if stored.currentState = .working ∧ isStale stored nowMs then .idle
      else stored.currentState := by
  simp only [currentStateForRead, i64SaturatingSub_gt_stale, isStale]
  congr

/-- Reading changes nothing but a stale `Working`, which it shows as `Idle`. -/
theorem currentStateForRead_cases (stored : SessionState) (nowMs : Int) :
    currentStateForRead stored nowMs = stored.currentState ∨
      stored.currentState = .working ∧ isStale stored nowMs ∧
        currentStateForRead stored nowMs = .idle := by
  rw [currentStateForRead_eq]
  split
  · rename_i stale
    exact .inr ⟨stale.1, stale.2, rfl⟩
  · exact .inl rfl

theorem isStale_mono {stored : SessionState} {early late : Int}
    (later : early ≤ late) (stale : isStale stored early) :
    isStale stored late := by
  simp only [isStale] at stale ⊢
  omega

end Bowerbird.Projection
