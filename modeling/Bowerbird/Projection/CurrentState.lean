import Bowerbird.Foundation.Trace
import Bowerbird.Projection.Rebuild
import Mathlib.Data.List.Induction

namespace Bowerbird.Projection

open Protocol Foundation

/-! The current state of a session in closed form: what its history must have in
it, instead of the fold that computes it. -/

/-- What `transition` is given of one event. -/
structure Observation where
  kind : EventKind
  notificationType : Option NotificationType
  pid : Option Nat
  cwd : Option String
  nowMs : Int
  deriving Repr, DecidableEq

namespace Observation

def apply (prev : Option SessionState) (event : Observation) : SessionState :=
  transition prev event.kind event.notificationType event.pid event.cwd
    event.nowMs

/-- Neither a recording marker nor a kind that no build knows. -/
def Ordinary (event : Observation) : Prop :=
  event.kind.isRecording = false ∧ event.kind ≠ .unknown

def Ends (event : Observation) : Prop :=
  event.kind = .sessionEnded

def Works (event : Observation) : Prop :=
  event.kind = .userPromptSubmit ∨ event.kind = .preToolUse ∨
    event.kind = .postToolUse

def Blocks (event : Observation) : Prop :=
  event.kind = .notification ∧
    (event.notificationType = some .permissionPrompt ∨
      event.notificationType = some .elicitationDialog)

def Transient (event : Observation) : Prop :=
  event.kind = .notification ∧
    (event.notificationType = some .authSuccess ∨
      event.notificationType = some .elicitationResponse ∨
      event.notificationType = some .elicitationComplete ∨
      event.notificationType = some .unknown ∨
      event.notificationType = none)

def Nudges (event : Observation) : Prop :=
  event.kind = .notification ∧ event.notificationType = some .idlePrompt

/-- What a pending block outlasts. -/
def Lingers (event : Observation) : Prop :=
  event.Nudges ∨ event.Transient

instance : DecidablePred Ordinary := fun event =>
  inferInstanceAs (Decidable (event.kind.isRecording = false ∧ _))

instance : DecidablePred Ends := fun event =>
  inferInstanceAs (Decidable (event.kind = _))

instance : DecidablePred Works := fun event =>
  inferInstanceAs (Decidable (event.kind = _ ∨ _))

instance : DecidablePred Blocks := fun event =>
  inferInstanceAs (Decidable (event.kind = _ ∧ _))

instance : DecidablePred Transient := fun event =>
  inferInstanceAs (Decidable (event.kind = _ ∧ _))

instance : DecidablePred Nudges := fun event =>
  inferInstanceAs (Decidable (event.kind = _ ∧ _))

instance : DecidablePred Lingers := fun event =>
  inferInstanceAs (Decidable (event.Nudges ∨ event.Transient))

end Observation

def foldObservations (events : List Observation) : Option SessionState :=
  EventLog.fold Observation.apply events

def currentOf (events : List Observation) : Option SessionCurrentState :=
  (foldObservations events).map SessionState.currentState

/-! One event, class by class. -/

namespace Observation

variable {prev : Option SessionState} {event : Observation}

theorem Ordinary.cases (ordinary : event.Ordinary) :
    event.Ends ∨ event.Works ∨ event.Blocks ∨ event.Nudges ∨
      event.Transient ∨ event.kind = .stop := by
  obtain ⟨kind, notificationType, pid, cwd, nowMs⟩ := event
  obtain ⟨marker, known⟩ := ordinary
  cases kind with
  | userPromptSubmit => exact .inr (.inl (.inl rfl))
  | preToolUse => exact .inr (.inl (.inr (.inl rfl)))
  | postToolUse => exact .inr (.inl (.inr (.inr rfl)))
  | stop => exact .inr (.inr (.inr (.inr (.inr rfl))))
  | notification =>
      rcases notificationType with _ | named
      · simp [Transient]
      · cases named <;> simp [Blocks, Nudges, Transient]
  | sessionEnded => exact .inl rfl
  | recordingStarted => cases marker
  | recordingEnded => cases marker
  | unknown => exact absurd rfl known

theorem apply_ends (ends : event.Ends) :
    (event.apply prev).currentState = .ended := by
  unfold Ends at ends
  simp [apply, ends]

theorem apply_works (works : event.Works) :
    (event.apply prev).currentState = .working := by
  rcases works with kind | kind | kind <;>
    simp [apply, transition, nextCurrentState, kind]

theorem apply_stop (stops : event.kind = .stop) :
    (event.apply prev).currentState = .idle := by
  simp [apply, transition, nextCurrentState, stops]

theorem apply_blocks (blocks : event.Blocks) :
    (event.apply prev).currentState = .waitingInput := by
  obtain ⟨kind, named | named⟩ := blocks <;>
    simp [apply, transition, nextCurrentState, kind, named]

theorem apply_nudges (nudges : event.Nudges) :
    (event.apply prev).currentState =
      if prev.map SessionState.currentState = some .waitingInput then
        .waitingInput
      else .idle := by
  obtain ⟨kind, named⟩ := nudges
  simp only [apply, transition, nextCurrentState, kind, named]
  rcases prev with _ | state
  · rfl
  · cases current : state.currentState <;> simp [current]

/-- A transient notification keeps the state, but wakes what is ended. -/
theorem apply_transient (transient : event.Transient) :
    (event.apply prev).currentState =
      match prev.map SessionState.currentState with
      | some .ended | none => .idle
      | some other => other := by
  obtain ⟨kind, named⟩ := transient
  rcases named with named | named | named | named | named <;>
    (simp only [apply, transition, nextCurrentState, kind, named]
     rcases prev with _ | state
     · rfl
     · cases current : state.currentState <;> simp [current])

/-! The classes are apart. -/

theorem Ends.kinds (ends : event.Ends) :
    ¬ event.Works ∧ ¬ event.Blocks ∧ ¬ event.Lingers ∧ ¬ event.Transient := by
  unfold Ends at ends
  simp [Works, Blocks, Lingers, Nudges, Transient, ends]

theorem Works.kinds (works : event.Works) :
    ¬ event.Ends ∧ ¬ event.Blocks ∧ ¬ event.Lingers ∧ ¬ event.Transient := by
  rcases works with kind | kind | kind <;>
    simp [Ends, Blocks, Lingers, Nudges, Transient, kind]

theorem kinds_of_stop (stops : event.kind = .stop) :
    ¬ event.Ends ∧ ¬ event.Works ∧ ¬ event.Blocks ∧ ¬ event.Lingers ∧
      ¬ event.Transient := by
  simp [Ends, Works, Blocks, Lingers, Nudges, Transient, stops]

theorem Blocks.kinds (blocks : event.Blocks) :
    ¬ event.Ends ∧ ¬ event.Works ∧ ¬ event.Transient := by
  obtain ⟨kind, named | named⟩ := blocks <;>
    simp [Ends, Works, Transient, kind, named]

theorem Nudges.kinds (nudges : event.Nudges) :
    ¬ event.Ends ∧ ¬ event.Works ∧ ¬ event.Blocks ∧ ¬ event.Transient := by
  obtain ⟨kind, named⟩ := nudges
  simp [Ends, Works, Blocks, Transient, kind, named]

theorem Transient.kinds (transient : event.Transient) :
    ¬ event.Ends ∧ ¬ event.Works ∧ ¬ event.Blocks := by
  obtain ⟨kind, named⟩ := transient
  rcases named with named | named | named | named | named <;>
    simp [Ends, Works, Blocks, kind, named]

/-! One event, state by state. -/

theorem apply_ended_iff (ordinary : event.Ordinary) :
    (event.apply prev).currentState = .ended ↔ event.Ends := by
  rcases ordinary.cases with ends | works | blocks | nudges | transient | stops
  · simp [apply_ends ends, ends]
  · simp [apply_works works, works.kinds]
  · simp [apply_blocks blocks, blocks.kinds]
  · rw [apply_nudges nudges]
    split <;> simp [nudges.kinds]
  · rw [apply_transient transient]
    rcases prev.map SessionState.currentState with _ | current
    · simp [transient.kinds]
    · cases current <;> simp [transient.kinds]
  · simp [apply_stop stops, kinds_of_stop stops]

theorem apply_waiting_iff (ordinary : event.Ordinary) :
    (event.apply prev).currentState = .waitingInput ↔ event.Blocks ∨
      prev.map SessionState.currentState = some .waitingInput ∧
        event.Lingers := by
  rcases ordinary.cases with ends | works | blocks | nudges | transient | stops
  · simp [apply_ends ends, ends.kinds]
  · simp [apply_works works, works.kinds]
  · simp [apply_blocks blocks, blocks]
  · have lingers : event.Lingers := .inl nudges
    rw [apply_nudges nudges]
    split <;> rename_i prior <;> simp [nudges.kinds, lingers, prior]
  · have lingers : event.Lingers := .inr transient
    rw [apply_transient transient]
    rcases prev.map SessionState.currentState with _ | current
    · simp [transient.kinds]
    · cases current <;> simp [transient.kinds, lingers]
  · simp [apply_stop stops, kinds_of_stop stops]

theorem apply_working_iff (ordinary : event.Ordinary) :
    (event.apply prev).currentState = .working ↔ event.Works ∨
      prev.map SessionState.currentState = some .working ∧
        event.Transient := by
  rcases ordinary.cases with ends | works | blocks | nudges | transient | stops
  · simp [apply_ends ends, ends.kinds]
  · simp [apply_works works, works]
  · simp [apply_blocks blocks, blocks.kinds]
  · rw [apply_nudges nudges]
    split <;> simp [nudges.kinds]
  · rw [apply_transient transient]
    rcases prev.map SessionState.currentState with _ | current
    · simp [transient.kinds]
    · cases current <;> simp [transient.kinds, transient]
  · simp [apply_stop stops, kinds_of_stop stops]

theorem apply_ne_unknown (ordinary : event.Ordinary)
    (known : prev.map SessionState.currentState ≠ some .unknown) :
    (event.apply prev).currentState ≠ .unknown := by
  rcases ordinary.cases with ends | works | blocks | nudges | transient | stops
  · simp [apply_ends ends]
  · simp [apply_works works]
  · simp [apply_blocks blocks]
  · rw [apply_nudges nudges]
    split <;> simp
  · rw [apply_transient transient]
    rcases same : prev.map SessionState.currentState with _ | current
    · simp
    · rw [same] at known
      cases current <;> simp at known ⊢
  · simp [apply_stop stops]

end Observation

/-! The whole history. -/

/-- What the history of a session says of its current state. -/
structure Characterizes (events : List Observation)
    (current : Option SessionCurrentState) : Prop where
  ended : current = some .ended ↔ ∃ last ∈ events.getLast?, last.Ends
  waiting : current = some .waitingInput ↔
    Trace.Since Observation.Blocks Observation.Lingers events
  working : current = some .working ↔
    Trace.Since Observation.Works Observation.Transient events
  known : current ≠ some .unknown

theorem characterizes_nil : Characterizes [] none where
  ended := by simp
  waiting := by simp [Trace.not_since_nil]
  working := by simp [Trace.not_since_nil]
  known := nofun

theorem currentOf_concat (events : List Observation) (event : Observation) :
    currentOf (events ++ [event]) =
      some (event.apply (foldObservations events)).currentState := by
  rw [currentOf, foldObservations, EventLog.fold_append_single]
  rfl

theorem Characterizes.concat {events : List Observation} {event : Observation}
    (before : Characterizes events (currentOf events))
    (ordinary : event.Ordinary) :
    Characterizes (events ++ [event]) (currentOf (events ++ [event])) where
  ended := by
    rw [currentOf_concat, Option.some.injEq,
      Observation.apply_ended_iff ordinary, List.getLast?_concat]
    simp
  waiting := by
    rw [currentOf_concat, Option.some.injEq,
      Observation.apply_waiting_iff ordinary, Trace.since_append,
      Trace.since_singleton, ← before.waiting]
    simp [currentOf]
  working := by
    rw [currentOf_concat, Option.some.injEq,
      Observation.apply_working_iff ordinary, Trace.since_append,
      Trace.since_singleton, ← before.working]
    simp [currentOf]
  known := by
    rw [currentOf_concat, ne_eq, Option.some.injEq]
    exact Observation.apply_ne_unknown ordinary before.known

theorem currentOf_characterizes (events : List Observation)
    (ordinary : ∀ event ∈ events, event.Ordinary) :
    Characterizes events (currentOf events) := by
  induction events using List.reverseRecOn with
  | nil => exact characterizes_nil
  | append_singleton events event induction =>
      refine (induction fun other member => ?_).concat ?_
      · exact ordinary other (List.mem_append_left _ member)
      · exact ordinary event (by simp)

/-- Of every history of ordinary events: the session is ended when its last event
ends it, waits for input when a block has only been nudged and passed by since,
works when work has only been passed by since, and is idle otherwise. -/
theorem current_state_of_history (events : List Observation)
    (nonempty : events ≠ [])
    (ordinary : ∀ event ∈ events, event.Ordinary) :
    ∃ state, foldObservations events = some state ∧
      (state.currentState = .ended ↔ ∃ last ∈ events.getLast?, last.Ends) ∧
      (state.currentState = .waitingInput ↔
        Trace.Since Observation.Blocks Observation.Lingers events) ∧
      (state.currentState = .working ↔
        Trace.Since Observation.Works Observation.Transient events) ∧
      (state.currentState = .idle ↔
        (¬ ∃ last ∈ events.getLast?, last.Ends) ∧
          ¬ Trace.Since Observation.Blocks Observation.Lingers events ∧
          ¬ Trace.Since Observation.Works Observation.Transient events) := by
  have characterized := currentOf_characterizes events ordinary
  have present : foldObservations events ≠ none :=
    fun absent => nonempty (EventLog.fold_eq_none.mp absent)
  obtain ⟨state, folded⟩ := Option.ne_none_iff_exists'.mp present
  have current : currentOf events = some state.currentState := by
    rw [currentOf, folded]
    rfl
  rw [current] at characterized
  obtain ⟨ended, waiting, working, known⟩ := characterized
  rw [Option.some.injEq] at ended waiting working
  refine ⟨state, folded, ended, waiting, working, ?_⟩
  rw [← ended, ← waiting, ← working]
  cases named : state.currentState with
  | unknown => exact absurd (congrArg some named) known
  | idle | working | waitingInput | ended => decide

def promptThenNudge : List Observation :=
  [{ kind := .preToolUse, notificationType := none, pid := some 7, cwd := none,
     nowMs := 1 },
   { kind := .notification, notificationType := some .permissionPrompt,
     pid := none, cwd := none, nowMs := 2 },
   { kind := .notification, notificationType := some .idlePrompt, pid := none,
     cwd := none, nowMs := 3 }]

theorem current_state_of_history_promptThenNudge :
    ∃ state, foldObservations promptThenNudge = some state ∧
      state.currentState = .waitingInput := by
  obtain ⟨state, folded, _, waiting, _⟩ := current_state_of_history
    promptThenNudge (by decide) (by decide)
  exact ⟨state, folded, waiting.mpr (by decide)⟩

/-! The log of a session is such a history. -/

/-- What the replay of a row gives `transition`. -/
def observationOf (parseValue : String → Option Json.Value)
    (row : Db.EventRow) : Observation :=
  let kind := (Db.eventKindFromDbStr row.kind).getD .unknown
  { kind
    notificationType :=
      Adapter.reparseNotificationType parseValue kind row.payload
    pid := row.pid
    cwd := row.cwd
    nowMs := row.createdAt }

/-- The events of a session in the log, as its history. -/
def historyOf (parseValue : String → Option Json.Value) (db : Db)
    (key : SessionKey) : List Observation :=
  (EventLog.ofKey Db.EventRow.key key db.events).map (observationOf parseValue)

section Log

variable {parseValue : String → Option Json.Value} {db : Db} {key : SessionKey}

theorem logView_historyOf :
    logView parseValue db key = foldObservations (historyOf parseValue db key) := by
  rw [foldObservations, historyOf, EventLog.fold, List.foldl_map]
  rfl

/-- So what the row of a session shows is told by its events in the log. -/
theorem FoldsLog.characterizes (folds : FoldsLog parseValue db)
    (user : key.isSentinel = false)
    (ordinary : ∀ event ∈ historyOf parseValue db key, event.Ordinary) :
    Characterizes (historyOf parseValue db key)
      ((db.stored key).map (·.currentState)) := by
  rw [folds.stored user, logView_historyOf]
  exact currentOf_characterizes _ ordinary

end Log

end Bowerbird.Projection
