import Bowerbird.Foundation.Machine
import Bowerbird.Projection.Session

namespace Bowerbird.Projection

open Protocol Foundation

/-! The store as a machine: one writer connection, held from the clock reading to
the publication, and whoever waits for it.  `Owner` names the writers. -/

variable {Owner : Type}

structure InFlight (Owner : Type) where
  owner : Owner
  request : WriteRequest
  nowMs : Int
  /-- The database when the connection was taken. -/
  opened : Db
  /-- What the transaction came to, once it has run. -/
  result : Option (Except SqlError Outcome)

structure Store (Owner : Type) where
  db : Db
  hub : List BroadcastEnvelope
  inFlight : Option (InFlight Owner)

inductive StoreLabel (Owner : Type) where
  | begin (owner : Owner) (request : WriteRequest) (nowMs : Int)
  | transact (faults : FaultPlan)
  | finish

structure Commit (Owner : Type) where
  owner : Owner
  request : WriteRequest
  nowMs : Int
  before : Db

structure Finish (Owner : Type) where
  owner : Owner
  request : WriteRequest
  result : Except SqlError Outcome
  opened : Db
  closed : Db
  published : List BroadcastEnvelope

inductive StoreSeen (Owner : Type) where
  | committed (commit : Commit Owner)
  | finished (finish : Finish Owner)

namespace Store

def begin (store : Store Owner) (owner : Owner) (request : WriteRequest)
    (nowMs : Int) : Option (Store Owner × List (StoreSeen Owner)) :=
  match store.inFlight with
  | some _ => none
  | none =>
      if sentinelKindRefused request then none
      else
        some ({ store with
          inFlight := some
            { owner, request, nowMs, opened := store.db, result := none } }, [])

def transact (store : Store Owner) (faults : FaultPlan) :
    Option (Store Owner × List (StoreSeen Owner)) :=
  match store.inFlight with
  | none => none
  | some flight =>
      match flight.result with
      | some _ => none
      | none =>
          let (result, db) := Tx.run faults
            (flight.request.transaction flight.nowMs) store.db
          some ({ store with
              db
              inFlight := some { flight with result := some result } },
            if committing result then
              [.committed {
                owner := flight.owner
                request := flight.request
                nowMs := flight.nowMs
                before := store.db }]
            else [])

/-- Publish and give the connection back, with no await in between. -/
def finish (store : Store Owner) :
    Option (Store Owner × List (StoreSeen Owner)) :=
  match store.inFlight with
  | none => none
  | some flight =>
      match flight.result with
      | none => none
      | some result =>
          let published := announcements flight.request flight.nowMs result
          some ({ store with
              hub := store.hub ++ published
              inFlight := none },
            [.finished {
              owner := flight.owner
              request := flight.request
              result
              opened := flight.opened
              closed := store.db
              published }])

def machine (Owner : Type) :
    Machine (Store Owner) (StoreLabel Owner) (StoreSeen Owner) where
  step store
    | .begin owner request nowMs => store.begin owner request nowMs
    | .transact faults => store.transact faults
    | .finish => store.finish

/-! What each step can do, said once. -/

section Cases

variable {store next : Store Owner} {seen : List (StoreSeen Owner)}

theorem begin_cases {owner : Owner} {request : WriteRequest} {nowMs : Int}
    (taken : store.begin owner request nowMs = some (next, seen)) :
    store.inFlight = none ∧ sentinelKindRefused request = false ∧ seen = [] ∧
      next = { store with
        inFlight := some
          { owner, request, nowMs, opened := store.db, result := none } } := by
  unfold begin at taken
  split at taken
  · cases taken
  · rename_i free
    split at taken
    · cases taken
    · rename_i allowed
      cases taken
      exact ⟨free, by simpa using allowed, rfl, rfl⟩

/-- A transaction commits the outcome of its request, or changes nothing. -/
theorem transact_cases {faults : FaultPlan}
    (taken : store.transact faults = some (next, seen)) :
    ∃ flight, store.inFlight = some flight ∧ flight.result = none ∧
      ((∃ result db,
          flight.request.outcome flight.nowMs store.db = (result, some db) ∧
          committing result = true ∧
          seen = [.committed ⟨flight.owner, flight.request, flight.nowMs,
            store.db⟩] ∧
          next = { store with
            db
            inFlight := some { flight with result := some result } }) ∨
        (∃ result, committing result = false ∧
          ((∃ error, result = .error error) ∨
            flight.request.outcome flight.nowMs store.db = (result, none)) ∧
          seen = [] ∧
          next = { store with
            inFlight := some { flight with result := some result } })) := by
  unfold transact at taken
  split at taken
  · cases taken
  · rename_i flight busy
    split at taken
    · cases taken
    · rename_i holding
      refine ⟨flight, busy, holding, ?_⟩
      rcases (WriteRequest.transaction_settles flight.request
        flight.nowMs).run faults store.db with ⟨error, failed⟩ | done
      · rw [failed] at taken
        cases taken
        exact .inr ⟨.error error, rfl, .inl ⟨error, rfl⟩, rfl, rfl⟩
      · rcases WriteRequest.outcome_split flight.request flight.nowMs
          store.db with ⟨result, db, split, commits⟩ | ⟨result, split, aborts⟩
        · rw [done, split] at taken
          simp only [commits, if_true, Option.some.injEq,
            Prod.mk.injEq] at taken
          obtain ⟨rfl, rfl⟩ := taken
          exact .inl ⟨result, db, split, commits, rfl, rfl⟩
        · rw [done, split] at taken
          simp only [aborts, Option.some.injEq, Prod.mk.injEq] at taken
          obtain ⟨rfl, rfl⟩ := taken
          exact .inr ⟨result, aborts, .inr split, rfl, rfl⟩

/-- Without a planned fault, a transaction does the outcome of its request. -/
theorem transact_none {flight : InFlight Owner}
    (busy : store.inFlight = some flight) (holding : flight.result = none) :
    store.transact FaultPlan.none = some ({ store with
        db := (flight.request.outcome flight.nowMs store.db).2.getD store.db
        inFlight := some { flight with
          result := some (flight.request.outcome flight.nowMs store.db).1 } },
      if committing (flight.request.outcome flight.nowMs store.db).1 then
        [.committed ⟨flight.owner, flight.request, flight.nowMs, store.db⟩]
      else []) := by
  have done := (WriteRequest.transaction_settles flight.request
    flight.nowMs).run_none store.db
  simp only [transact, busy, holding, done]

theorem finish_cases (taken : store.finish = some (next, seen)) :
    ∃ flight result, store.inFlight = some flight ∧
      flight.result = some result ∧
      seen = [.finished {
        owner := flight.owner
        request := flight.request
        result
        opened := flight.opened
        closed := store.db
        published := announcements flight.request flight.nowMs result }] ∧
      next = { store with
        hub := store.hub ++ announcements flight.request flight.nowMs result
        inFlight := none } := by
  unfold finish at taken
  split at taken
  · cases taken
  · rename_i flight busy
    split at taken
    · cases taken
    · rename_i result settled
      cases taken
      exact ⟨flight, result, busy, settled, rfl, rfl⟩

end Cases

/-- What a committed write still has to publish. -/
def owed (store : Store Owner) : List BroadcastEnvelope :=
  match store.inFlight with
  | none => []
  | some flight =>
      match flight.result with
      | none => []
      | some result => announcements flight.request flight.nowMs result

/-- Until its transaction commits, a write has left the database alone. -/
def Holding (store : Store Owner) : Prop :=
  ∀ flight, store.inFlight = some flight →
    sentinelKindRefused flight.request = false ∧
      match flight.result with
      | none => store.db = flight.opened
      | some result =>
          store.db = flight.opened ∧ committing result = false ∨
            flight.request.outcome flight.nowMs flight.opened =
              (result, some store.db)

end Store

namespace StoreSeen

def commit? : StoreSeen Owner → Option (Commit Owner)
  | .committed commit => some commit
  | .finished _ => none

def finish? : StoreSeen Owner → Option (Finish Owner)
  | .committed _ => none
  | .finished finish => some finish

end StoreSeen

def commits (seen : List (StoreSeen Owner)) : List (Commit Owner) :=
  seen.filterMap StoreSeen.commit?

def finishes (seen : List (StoreSeen Owner)) : List (Finish Owner) :=
  seen.filterMap StoreSeen.finish?

def published (seen : List (StoreSeen Owner)) : List BroadcastEnvelope :=
  (finishes seen).flatMap (·.published)

section Seen

variable (seen later : List (StoreSeen Owner)) (commit : Commit Owner)
variable (finish : Finish Owner)

@[simp] theorem commits_append :
    commits (seen ++ later) = commits seen ++ commits later := by
  simp [commits]

@[simp] theorem finishes_append :
    finishes (seen ++ later) = finishes seen ++ finishes later := by
  simp [finishes]

@[simp] theorem published_append :
    published (seen ++ later) = published seen ++ published later := by
  simp [published]

@[simp] theorem commits_nil : commits ([] : List (StoreSeen Owner)) = [] :=
  rfl

@[simp] theorem finishes_nil : finishes ([] : List (StoreSeen Owner)) = [] :=
  rfl

@[simp] theorem published_nil : published ([] : List (StoreSeen Owner)) = [] :=
  rfl

@[simp] theorem commits_committed : commits [.committed commit] = [commit] :=
  rfl

@[simp] theorem commits_finished : commits [.finished finish] = [] :=
  rfl

@[simp] theorem finishes_committed : finishes [.committed commit] = [] :=
  rfl

@[simp] theorem finishes_finished : finishes [.finished finish] = [finish] :=
  rfl

@[simp] theorem published_committed : published [.committed commit] = [] :=
  rfl

@[simp] theorem published_finished :
    published [.finished finish] = finish.published := by
  simp [published]

end Seen

namespace Commit

variable (commit : Commit Owner)

def row : Db.EventRow :=
  (commit.request.columns commit.nowMs).row (commit.before.eventSeq + 1)

def key : SessionKey :=
  (commit.request.columns commit.nowMs).key

/-- The database as the transaction left it. -/
def after : Db :=
  ((commit.request.outcome commit.nowMs commit.before).2).getD commit.before

/-- The event that a commit makes public; recordings make none. -/
def event? : Option Event :=
  match commit.request with
  | .event envelope _ =>
      some (envelopeEvent envelope (commit.before.eventSeq + 1) commit.nowMs)
  | .recordingStarted | .recordingEnded _ => none

/-- The state that a hook, replayed or synthetic event leads to. -/
def newState (envelope : EventEnvelope) : SessionState :=
  envelopeTransition envelope (commit.before.stored envelope.key) commit.nowMs

/-- The session's first event, a change of the stored state, or a change of the
state that a reader would have been shown just before. -/
def ChangesState (envelope : EventEnvelope) : Prop :=
  (∀ row ∈ commit.before.events, row.key ≠ envelope.key) ∨
    (commit.before.stored envelope.key).map SessionState.currentState ≠
      some (commit.newState envelope).currentState ∨
    (commit.before.stored envelope.key).map
        (currentStateForRead · commit.nowMs) ≠
      some (commit.newState envelope).currentState

instance (envelope : EventEnvelope) : Decidable (commit.ChangesState envelope) :=
  inferInstanceAs (Decidable (_ ∨ _))

/-- The envelopes that a commit is announced with. -/
def announced : List BroadcastEnvelope :=
  match commit.request with
  | .event envelope _ =>
      .event (envelopeEvent envelope (commit.before.eventSeq + 1)
          commit.nowMs) ::
        if commit.ChangesState envelope then
          [.state envelope.source envelope.sessionId (commit.newState envelope)]
        else []
  | .recordingStarted | .recordingEnded _ => []

end Commit

/-- The row that stores an event. -/
def eventRow (event : Event) : Db.EventRow :=
  { eventId := event.eventId
    source := event.source
    sessionId := event.sessionId
    kind := Db.eventKindAsStr event.kind
    reaction := event.reaction.map Db.reactionAsDbString
    payload := event.payload
    createdAt := event.createdAt
    pid := event.pid
    cwd := event.cwd }

@[simp] theorem eventRow_eventId (event : Event) :
    (eventRow event).eventId = event.eventId :=
  rfl

@[simp] theorem eventRow_source (event : Event) :
    (eventRow event).source = event.source :=
  rfl

theorem Commit.row_event {commit : Commit Owner} {event : Event}
    (emits : commit.event? = some event) : commit.row = eventRow event := by
  unfold Commit.event? at emits
  split at emits
  · rename_i envelope precondition asked
    cases emits
    simp [Commit.row, asked, WriteRequest.columns, envelopeColumns, eventRow,
      envelopeEvent, Db.EventColumns.row]
  · cases emits
  · cases emits

/-- A session without an event has no stored state. -/
theorem stored_of_no_event {db : Db} (wellFormed : db.WellFormed)
    {key : SessionKey} (fresh : ∀ row ∈ db.events, row.key ≠ key) :
    db.stored key = none := by
  have absent : db.projection key = none := by
    refine KeyedTable.lookup_eq_none.mpr fun row member same => ?_
    obtain ⟨event, source, sameKey⟩ := wellFormed.sourced row member
    exact fresh event source (sameKey.trans same)
  simp [Db.stored, Db.selectSessionProjectionState, absent]

/-- What a committed write publishes is what its commit calls for. -/
theorem announcements_commit (commit : Commit Owner) {db : Db}
    {result : Except SqlError Outcome}
    (wellFormed : commit.before.WellFormed)
    (outcome : commit.request.outcome commit.nowMs commit.before =
      (result, some db)) :
    announcements commit.request commit.nowMs result = commit.announced := by
  unfold Commit.announced
  split
  · rename_i envelope precondition asked
    rw [asked] at outcome ⊢
    simp only [WriteRequest.outcome] at outcome
    split at outcome
    · cases outcome
      have changed : (stateChanged {
          eventId := commit.before.eventSeq + 1
          newState := commit.newState envelope
          prevRawCurrentState := (commit.before.stored envelope.key).map
            SessionState.currentState
          prevReadCurrentState := (commit.before.stored envelope.key).map
            (currentStateForRead · commit.nowMs) } = true) ↔
          commit.ChangesState envelope := by
        simp only [stateChanged, Bool.or_eq_true, bne_iff_ne,
          Commit.ChangesState]
        constructor
        · exact .inr
        · rintro (fresh | changes)
          · simp [stored_of_no_event wellFormed fresh]
          · exact changes
      simp only [announcements]
      congr 1
      exact if_congr changed rfl rfl
    · cases outcome
  · rename_i asked
    rw [asked]
    rfl
  · rename_i asked
    rw [asked]
    rfl

end Bowerbird.Projection
