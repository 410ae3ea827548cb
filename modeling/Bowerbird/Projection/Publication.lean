import Bowerbird.Projection.Store

namespace Bowerbird.Projection

open Protocol Foundation

/-! Publication after commit, over whole runs of the store. -/

variable {Owner : Type}

/-- A sequence of commits, each on the database that the one before left. -/
def Chained : Db → List (Commit Owner) → Db → Prop
  | db, [], final => final = db
  | db, commit :: rest, final =>
      commit.before = db ∧
        (∃ result, commit.request.outcome commit.nowMs commit.before =
          (result, some commit.after)) ∧
        sentinelKindRefused commit.request = false ∧
        Chained commit.after rest final

theorem Chained.snoc {db final : Db} {before : List (Commit Owner)}
    {commit : Commit Owner} (chained : Chained db before commit.before)
    (allowed : sentinelKindRefused commit.request = false)
    {result : Except SqlError Outcome}
    (outcome : commit.request.outcome commit.nowMs commit.before =
      (result, some final)) :
    Chained db (before ++ [commit]) final := by
  have after : commit.after = final := by rw [Commit.after, outcome]; rfl
  induction before generalizing db with
  | nil => exact ⟨chained, ⟨result, after ▸ outcome⟩, allowed, after.symm⟩
  | cons head rest induction =>
      exact ⟨chained.1, chained.2.1, chained.2.2.1, induction chained.2.2.2⟩

theorem commit_appends {commit : Commit Owner} {result : Except SqlError Outcome}
    (outcome : commit.request.outcome commit.nowMs commit.before =
      (result, some commit.after)) :
    commit.request.Appends commit.nowMs commit.before commit.after :=
  WriteRequest.outcome_appends (by rw [outcome])

theorem Chained.events {db final : Db} {committed : List (Commit Owner)}
    (chained : Chained db committed final) :
    final.events = db.events ++ committed.map Commit.row := by
  induction committed generalizing db with
  | nil => rw [chained]; simp
  | cons commit rest induction =>
      obtain ⟨before, ⟨result, outcome⟩, _, chained⟩ := chained
      rw [induction chained, (commit_appends outcome).events, before]
      simp [Commit.row, before]

theorem Chained.outcome {db final : Db} {committed : List (Commit Owner)}
    (chained : Chained db committed final) :
    ∀ commit ∈ committed,
      ∃ result, commit.request.outcome commit.nowMs commit.before =
        (result, some commit.after) := by
  induction committed generalizing db with
  | nil => simp
  | cons head rest induction =>
      intro commit member
      rcases List.mem_cons.mp member with rfl | member
      · exact chained.2.1
      · exact induction chained.2.2.2 commit member

/-- A commit stands on those before it. -/
theorem Chained.split {db final : Db} {first second : List (Commit Owner)}
    (chained : Chained db (first ++ second) final) :
    ∃ middle, Chained db first middle ∧ Chained middle second final := by
  induction first generalizing db with
  | nil => exact ⟨db, rfl, chained⟩
  | cons commit rest induction =>
      obtain ⟨before, outcome, allowed, chained⟩ := chained
      obtain ⟨middle, left, right⟩ := induction chained
      exact ⟨middle, ⟨before, outcome, allowed, left⟩, right⟩

theorem Chained.eventSeq {db final : Db} {committed : List (Commit Owner)}
    (chained : Chained db committed final) :
    db.eventSeq ≤ final.eventSeq ∧ ∀ commit ∈ committed,
      db.eventSeq < commit.row.eventId := by
  induction committed generalizing db with
  | nil =>
      rw [chained]
      exact ⟨le_refl _, by simp⟩
  | cons commit rest induction =>
      obtain ⟨before, ⟨result, outcome⟩, _, chained⟩ := chained
      obtain ⟨grows, later⟩ := induction chained
      rw [(commit_appends outcome).eventSeq, before] at grows later
      refine ⟨by omega, ?_⟩
      intro other member
      rcases List.mem_cons.mp member with rfl | member
      · have own : other.row.eventId = db.eventSeq + 1 := by
          rw [Commit.row, before]
          rfl
        omega
      · have above := later other member
        omega

theorem Chained.wellFormed {db final : Db} {committed : List (Commit Owner)}
    (chained : Chained db committed final) (wellFormed : db.WellFormed) :
    final.WellFormed := by
  induction committed generalizing db with
  | nil => rw [chained]; exact wellFormed
  | cons commit rest induction =>
      obtain ⟨before, ⟨result, outcome⟩, _, chained⟩ := chained
      refine induction chained ((commit_appends outcome).wellFormed ?_)
      rw [before]
      exact wellFormed

theorem Chained.projection_kept {db final : Db} {committed : List (Commit Owner)}
    {key : SessionKey} (chained : Chained db committed final)
    (present : (db.projection key).isSome) :
    (final.projection key).isSome := by
  induction committed generalizing db with
  | nil =>
      rw [chained]
      exact present
  | cons head rest induction =>
      obtain ⟨before, ⟨result, outcome⟩, _, chained⟩ := chained
      have appends := commit_appends outcome
      apply induction chained
      by_cases own : (head.request.columns head.nowMs).key = key
      · rw [← own, appends.projection_self]
        rfl
      · rw [appends.projection_ne own, before]
        exact present

theorem Chained.committed_projection {db final : Db}
    {committed : List (Commit Owner)} {commit : Commit Owner}
    (chained : Chained db committed final) (member : commit ∈ committed) :
    (final.projection commit.key).isSome := by
  induction committed generalizing db with
  | nil => cases member
  | cons head rest induction =>
      obtain ⟨_, ⟨result, outcome⟩, _, chained⟩ := chained
      rcases List.mem_cons.mp member with rfl | member
      · apply chained.projection_kept
        have own := (commit_appends outcome).projection_self
        rw [Commit.key, own]
        rfl
      · exact induction chained member

/-! The state of one session along a chain. -/

/-- What a commit makes of the state of its session. -/
def Commit.carry (state : SessionState) (commit : Commit Owner) : SessionState :=
  match commit.request with
  | .event envelope _ => envelopeTransition envelope (some state) commit.nowMs
  | .recordingStarted | .recordingEnded _ => state

/-- The state that a session is left in by the commits that are its own. -/
def carried (key : SessionKey) (state : SessionState)
    (committed : List (Commit Owner)) : SessionState :=
  (committed.filter (·.key = key)).foldl Commit.carry state

theorem commit_stored_self {commit : Commit Owner}
    {result : Except SqlError Outcome} {state : SessionState}
    (outcome : commit.request.outcome commit.nowMs commit.before =
      (result, some commit.after))
    (user : commit.key.isSentinel = false)
    (stored : commit.before.stored commit.key = some state) :
    commit.after.stored commit.key = some (commit.carry state) := by
  have appended := (commit_appends outcome).stored_self
  obtain ⟨owner, request, nowMs, before⟩ := commit
  cases request with
  | event envelope precondition =>
      have own : before.stored envelope.key = some state := stored
      rw [WriteRequest.stateText, own] at appended
      exact appended
  | recordingStarted => cases user
  | recordingEnded recordingSessionId => cases user

theorem commit_stored_ne {commit : Commit Owner}
    {result : Except SqlError Outcome} {key : SessionKey}
    (outcome : commit.request.outcome commit.nowMs commit.before =
      (result, some commit.after))
    (other : commit.key ≠ key) :
    commit.after.stored key = commit.before.stored key :=
  (commit_appends outcome).stored_ne other

theorem Chained.stored {db final : Db} {committed : List (Commit Owner)}
    {key : SessionKey} {state : SessionState} (user : key.isSentinel = false)
    (chained : Chained db committed final)
    (stored : db.stored key = some state) :
    final.stored key = some (carried key state committed) := by
  induction committed generalizing db state with
  | nil => rw [chained]; exact stored
  | cons commit rest induction =>
      obtain ⟨before, ⟨result, outcome⟩, _, chained⟩ := chained
      rw [← before] at stored
      by_cases same : commit.key = key
      · subst same
        rw [induction chained (commit_stored_self outcome user stored)]
        simp [carried]
      · rw [← commit_stored_ne outcome same] at stored
        rw [induction chained stored]
        simp [carried, same]

/-- What holds of a chain of commits and the writes between them. -/
structure Ledger (start store : Store Owner) (seen : List (StoreSeen Owner)) :
    Prop where
  holding : store.Holding
  chained : Chained start.db (commits seen) store.db
  hub : store.hub = start.hub ++ published seen
  announced : published seen ++ store.owed =
    (commits seen).flatMap Commit.announced
  uncommitted : ∀ finish ∈ finishes seen, committing finish.result = false →
    finish.closed = finish.opened ∧ finish.published = []
  recordings : ∀ finish ∈ finishes seen,
    (∀ envelope precondition, finish.request ≠ .event envelope precondition) →
    finish.published = []

theorem announcements_uncommitted {request : WriteRequest} {nowMs : Int}
    {result : Except SqlError Outcome} (aborted : committing result = false) :
    announcements request nowMs result = [] := by
  unfold announcements
  split
  · cases aborted
  · rfl

theorem announcements_recording {request : WriteRequest} {nowMs : Int}
    {result : Except SqlError Outcome}
    (recording : ∀ envelope precondition,
      request ≠ .event envelope precondition) :
    announcements request nowMs result = [] := by
  unfold announcements
  split
  · exact absurd rfl (recording _ _)
  · rfl

section Step

variable {start store next : Store Owner} {seen out : List (StoreSeen Owner)}

theorem Ledger.begin {owner : Owner} {request : WriteRequest} {nowMs : Int}
    (ledger : Ledger start store seen)
    (taken : store.begin owner request nowMs = some (next, out)) :
    Ledger start next (seen ++ out) := by
  obtain ⟨free, allowed, rfl, rfl⟩ := Store.begin_cases taken
  rw [List.append_nil]
  exact {
    holding := by
      rintro flight ⟨rfl⟩
      exact ⟨allowed, rfl⟩
    chained := ledger.chained
    hub := ledger.hub
    announced := by
      have announced := ledger.announced
      rw [Store.owed, free] at announced
      rw [Store.owed]
      exact announced
    uncommitted := ledger.uncommitted
    recordings := ledger.recordings }

theorem Ledger.transact {faults : FaultPlan} (ledger : Ledger start store seen)
    (wellFormed : start.db.WellFormed)
    (taken : store.transact faults = some (next, out)) :
    Ledger start next (seen ++ out) := by
  obtain ⟨flight, busy, holding, committed | aborted⟩ :=
    Store.transact_cases taken
  · obtain ⟨result, db, outcome, commits', rfl, rfl⟩ := committed
    obtain ⟨allowed, opened⟩ := ledger.holding flight busy
    rw [holding] at opened
    have owedBefore := ledger.announced
    rw [Store.owed, busy] at owedBefore
    simp only [holding, List.append_nil] at owedBefore
    exact {
      holding := by
        rintro _ ⟨rfl⟩
        exact ⟨allowed, .inr (by rw [← opened]; exact outcome)⟩
      chained := by
        rw [commits_append, commits_committed]
        exact Chained.snoc ledger.chained allowed outcome
      hub := by simpa using ledger.hub
      announced := by
        have owes := announcements_commit
          ⟨flight.owner, flight.request, flight.nowMs, store.db⟩
          (ledger.chained.wellFormed wellFormed) outcome
        simp only [published_append, published_committed, commits_append,
          commits_committed, List.append_nil, List.flatMap_append,
          List.flatMap_cons, List.flatMap_nil, Store.owed]
        rw [owedBefore]
        exact congrArg _ owes
      uncommitted := by simpa using ledger.uncommitted
      recordings := by simpa using ledger.recordings }
  · obtain ⟨result, aborts, _, rfl, rfl⟩ := aborted
    obtain ⟨allowed, opened⟩ := ledger.holding flight busy
    rw [holding] at opened
    rw [List.append_nil]
    exact {
      holding := by
        rintro _ ⟨rfl⟩
        exact ⟨allowed, .inl ⟨opened, aborts⟩⟩
      chained := ledger.chained
      hub := ledger.hub
      announced := by
        have announced := ledger.announced
        rw [Store.owed, busy] at announced
        simp only [holding] at announced
        rw [Store.owed]
        simpa [announcements_uncommitted aborts] using announced
      uncommitted := ledger.uncommitted
      recordings := ledger.recordings }

theorem Ledger.finish (ledger : Ledger start store seen)
    (taken : store.finish = some (next, out)) :
    Ledger start next (seen ++ out) := by
  obtain ⟨flight, result, busy, settled, rfl, rfl⟩ := Store.finish_cases taken
  obtain ⟨allowed, opened⟩ := ledger.holding flight busy
  rw [settled] at opened
  have owes : store.owed =
      announcements flight.request flight.nowMs result := by
    rw [Store.owed, busy]
    simp only [settled]
  exact {
    holding := by
      rintro _ ⟨⟩
    chained := by
      simpa using ledger.chained
    hub := by simp [ledger.hub]
    announced := by
      have announced := ledger.announced
      rw [owes] at announced
      simpa [Store.owed] using announced
    uncommitted := by
      intro finish member aborted
      rw [finishes_append, finishes_finished, List.mem_append,
        List.mem_singleton] at member
      rcases member with member | rfl
      · exact ledger.uncommitted finish member aborted
      · refine ⟨?_, announcements_uncommitted aborted⟩
        rcases opened with ⟨same, _⟩ | outcome
        · exact same
        · rcases WriteRequest.outcome_split flight.request flight.nowMs
            flight.opened with ⟨_, _, split, commits⟩ | ⟨_, split, _⟩
          · rw [split] at outcome
            cases outcome
            simp [commits] at aborted
          · rw [split] at outcome
            cases outcome
    recordings := by
      intro finish member recording
      rw [finishes_append, finishes_finished, List.mem_append,
        List.mem_singleton] at member
      rcases member with member | rfl
      · exact ledger.recordings finish member recording
      · exact announcements_recording recording }

end Step

theorem ledger_of_run {ok : Store Owner → StoreLabel Owner → Prop}
    {start final : Store Owner} {seen : List (StoreSeen Owner)}
    (run : (Store.machine Owner).Run ok start final seen)
    (wellFormed : start.db.WellFormed) (idle : start.inFlight = none) :
    Ledger start final seen := by
  refine run.invariant (Ledger start) ?_ ?_
  · exact {
      holding := by simp [Store.Holding, idle]
      chained := rfl
      hub := by simp
      announced := by simp [Store.owed, idle]
      uncommitted := by simp
      recordings := by simp }
  · intro middle next before out label _ ledger _ taken
    cases label with
    | begin owner request nowMs => exact ledger.begin taken
    | transact faults => exact ledger.transact wellFormed taken
    | finish => exact ledger.finish taken

/-! The ledger read as a statement about envelopes and rows. -/

def Commit.isEvent (commit : Commit Owner) : Bool :=
  commit.event?.isSome

theorem Commit.announced_events (commit : Commit Owner) :
    commit.announced.filterMap BroadcastEnvelope.event? =
      commit.event?.toList := by
  unfold Commit.announced Commit.event?
  split
  · split <;> rfl
  · rfl
  · rfl

/-- An event that is announced is that of a commit. -/
theorem Ledger.announced_event {start store : Store Owner}
    {seen : List (StoreSeen Owner)} {event : Event}
    (ledger : Ledger start store seen)
    (announced : .event event ∈ published seen ++ store.owed) :
    ∃ commit ∈ commits seen, commit.event? = some event := by
  rw [ledger.announced] at announced
  obtain ⟨commit, member, own⟩ := List.mem_flatMap.mp announced
  have inside : event ∈ commit.announced.filterMap BroadcastEnvelope.event? :=
    List.mem_filterMap.mpr ⟨_, own, rfl⟩
  rw [commit.announced_events] at inside
  exact ⟨commit, member, Option.mem_toList.mp inside⟩

theorem Commit.isEvent_cases {commit : Commit Owner}
    (event : commit.isEvent = true) :
    ∃ envelope precondition, commit.request = .event envelope precondition := by
  unfold Commit.isEvent Commit.event? at event
  split at event
  · exact ⟨_, _, ‹_›⟩
  · cases event
  · cases event

theorem Commit.event?_cases {commit : Commit Owner} {event : Event}
    (emits : commit.event? = some event) :
    ∃ envelope precondition, commit.request = .event envelope precondition ∧
      event = envelopeEvent envelope (commit.before.eventSeq + 1)
        commit.nowMs := by
  unfold Commit.event? at emits
  split at emits
  · rename_i envelope precondition asked
    cases emits
    exact ⟨envelope, precondition, asked, rfl⟩
  · cases emits
  · cases emits

theorem announced_events (committed : List (Commit Owner)) :
    (committed.flatMap Commit.announced).filterMap BroadcastEnvelope.event? =
      committed.filterMap Commit.event? := by
  induction committed with
  | nil => rfl
  | cons commit rest induction =>
      rw [List.flatMap_cons, List.filterMap_append, commit.announced_events,
        induction]
      cases emits : commit.event? <;> simp [emits]

theorem event_rows (committed : List (Commit Owner)) :
    (committed.filterMap Commit.event?).map eventRow =
      (committed.filter Commit.isEvent).map Commit.row := by
  induction committed with
  | nil => rfl
  | cons commit rest induction =>
      cases emits : commit.event? with
      | none => simpa [emits, Commit.isEvent] using induction
      | some event =>
          simpa [emits, Commit.isEvent, Commit.row_event emits] using induction

/-- What is published is what was committed: the events of the committed writes,
once each and in the order of their ids, each followed at once by the state it
changed; and whatever does not commit changes and publishes nothing. -/
structure PublishesAfterCommit (start final : Store Owner)
    (seen : List (StoreSeen Owner)) : Prop where
  hub : final.hub = start.hub ++ published seen
  /-- The database is what the commits made of it, one on the other. -/
  chained : Chained start.db (commits seen) final.db
  announced : published seen ++ final.owed =
    (commits seen).flatMap Commit.announced
  events :
    ((published seen ++ final.owed).filterMap BroadcastEnvelope.event?).map
        eventRow =
      ((commits seen).filter Commit.isEvent).map Commit.row
  ascending :
    ((published seen ++ final.owed).filterMap
      BroadcastEnvelope.event?).Pairwise fun first second =>
        first.eventId < second.eventId
  /-- Only the write in flight may still owe its event. -/
  owed : (final.owed.filterMap BroadcastEnvelope.event?).length ≤ 1
  idle : final.inFlight = none → final.owed = []
  uncommitted : ∀ finish ∈ finishes seen, committing finish.result = false →
    finish.closed = finish.opened ∧ finish.published = []
  recordings : ∀ finish ∈ finishes seen,
    (∀ envelope precondition, finish.request ≠ .event envelope precondition) →
    finish.published = []

theorem owed_events (store : Store Owner) :
    (store.owed.filterMap BroadcastEnvelope.event?).length ≤ 1 := by
  unfold Store.owed announcements
  split
  · simp
  · split
    · simp
    · split
      · split <;> simp [BroadcastEnvelope.event?]
      · simp

theorem Ledger.publishesAfterCommit {start final : Store Owner}
    {seen : List (StoreSeen Owner)} (ledger : Ledger start final seen)
    (wellFormed : start.db.WellFormed) :
    PublishesAfterCommit start final seen := by
  have events :
      ((published seen ++ final.owed).filterMap
          BroadcastEnvelope.event?).map eventRow =
        ((commits seen).filter Commit.isEvent).map Commit.row := by
    rw [ledger.announced, announced_events, event_rows]
  refine {
    hub := ledger.hub
    chained := ledger.chained
    announced := ledger.announced
    events
    ascending := ?_
    owed := owed_events final
    idle := fun idle => by simp [Store.owed, idle]
    uncommitted := ledger.uncommitted
    recordings := ledger.recordings }
  have rows := (ledger.chained.wellFormed wellFormed).ascending
  rw [ledger.chained.events] at rows
  have committed := (List.pairwise_append.mp rows).2.1
  have ordered := committed.sublist
    (List.Sublist.map Commit.row (List.filter_sublist (p := Commit.isEvent)))
  rw [← events, List.pairwise_map] at ordered
  exact ordered

end Bowerbird.Projection
