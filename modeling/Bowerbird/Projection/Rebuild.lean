import Bowerbird.Adapter.Normalize
import Bowerbird.Foundation.EventLog
import Bowerbird.Projection.Session

namespace Bowerbird.Projection

open Protocol Foundation Adapter

/-! Projections from the log alone: the startup rebuild, and the fold that the
stored projections agree with. -/

variable (parseValue : String → Option Json.Value)

/-- The replay loop over the rows of one session, with the time of the last row.
A kind that does not decode gives the session up. -/
def replayRows (state : Option SessionState) (lastCreatedAt : Int) :
    List Db.EventRow → Option (Option SessionState × Int)
  | [] => some (state, lastCreatedAt)
  | row :: rest =>
      match Db.eventKindFromDbStr row.kind with
      | none => none
      | some kind =>
          replayRows
            (some (transition state kind
              (reparseNotificationType parseValue kind row.payload)
              row.pid row.cwd row.createdAt))
            row.createdAt rest

def rebuildSessions : List SessionKey → Nat → Tx Db SqlError Nat
  | [], rebuilt => pure rebuilt
  | key :: rest, rebuilt => do
      let existing ← Tx.query .sqlite (Db.selectSessionProjectionState key)
      if existing.isSome then rebuildSessions rest rebuilt
      else do
        let kinds ← Tx.query .sqlite (Db.selectEventKindsForSession key)
        match replayRows parseValue none 0 kinds with
        | some (some state, lastCreatedAt) => do
            Tx.execute .sqlite
              (Db.upsertSessionProjection key (.json state) lastCreatedAt)
            rebuildSessions rest (rebuilt + 1)
        | _ => rebuildSessions rest rebuilt

def rebuildMissingProjections : Tx Db SqlError Nat := do
  Tx.execute .sqlite id
  let pairs ← Tx.query .sqlite Db.selectDistinctSessionsFromEvents
  let rebuilt ← rebuildSessions parseValue pairs 0
  Tx.commit .sqlite
  return rebuilt

/-! The effect of the rebuild, session by session. -/

/-- The row that the log gives a session. -/
def rebuiltRow (events : List Db.EventRow) (key : SessionKey) :
    Option Db.ProjectionRow :=
  match replayRows parseValue none 0 (events.filter (·.key = key)) with
  | some (some state, lastCreatedAt) =>
      some {
        source := key.source
        sessionId := key.sessionId
        state := .json state
        updatedAt := lastCreatedAt }
  | _ => none

def rebuiltSessions : List SessionKey → Nat → Db → Nat × Db
  | [], rebuilt, db => (rebuilt, db)
  | key :: rest, rebuilt, db =>
      if (db.selectSessionProjectionState key).isSome then
        rebuiltSessions rest rebuilt db
      else
        match replayRows parseValue none 0
          (db.selectEventKindsForSession key) with
        | some (some state, lastCreatedAt) =>
            rebuiltSessions rest (rebuilt + 1)
              (db.upsertSessionProjection key (.json state) lastCreatedAt)
        | _ => rebuiltSessions rest rebuilt db

theorem rebuildSessions_prepares (keys : List SessionKey) (rebuilt : Nat) :
    Tx.Prepares (rebuildSessions parseValue keys rebuilt)
      (rebuiltSessions parseValue keys rebuilt) := by
  induction keys generalizing rebuilt with
  | nil => exact Tx.Prepares.pure rebuilt
  | cons key rest induction =>
      have replayed (kinds : List Db.EventRow) :
          Tx.Prepares (match replayRows parseValue none 0 kinds with
            | some (some state, lastCreatedAt) => do
                Tx.execute .sqlite
                  (Db.upsertSessionProjection key (.json state) lastCreatedAt)
                rebuildSessions parseValue rest (rebuilt + 1)
            | _ => rebuildSessions parseValue rest rebuilt)
            (fun db => match replayRows parseValue none 0 kinds with
              | some (some state, lastCreatedAt) =>
                  rebuiltSessions parseValue rest (rebuilt + 1)
                    (db.upsertSessionProjection key (.json state) lastCreatedAt)
              | _ => rebuiltSessions parseValue rest rebuilt db) := by
        split
        · exact Tx.Prepares.bind (Tx.Prepares.execute _ _)
            fun _ => induction (rebuilt + 1)
        · exact induction rebuilt
      exact Tx.Prepares.congr
        (Tx.Prepares.bind (Tx.Prepares.query _ _) fun existing =>
          Tx.Prepares.ite (induction rebuilt)
            (Tx.Prepares.bind (Tx.Prepares.query _ _) replayed))
        fun _ => rfl

/-- The rebuild as one effect: it commits every session at once, or nothing. -/
theorem rebuildMissingProjections_settles :
    Tx.Settles (rebuildMissingProjections parseValue) (fun db =>
      let (rebuilt, next) := rebuiltSessions parseValue
        db.selectDistinctSessionsFromEvents 0 db
      (.ok rebuilt, some next)) :=
  Tx.Settles.after (Tx.Prepares.execute _ _) fun _ =>
    Tx.Settles.after (Tx.Prepares.query _ _) fun pairs =>
      Tx.Settles.after (rebuildSessions_prepares parseValue pairs 0) fun _ =>
        Tx.Settles.commit _ _

/-- A rebuild leaves the rows that are there and adds those that the log gives to
the sessions it goes through. -/
theorem rebuiltSessions_spec (keys : List SessionKey) (rebuilt : Nat)
    (db : Db) :
    let next := (rebuiltSessions parseValue keys rebuilt db).2
    next.events = db.events ∧ next.eventSeq = db.eventSeq ∧
      next.recordings = db.recordings ∧
      next.recordingSeq = db.recordingSeq ∧
      ∀ key, next.projection key = (db.projection key).or
        (if key ∈ keys then rebuiltRow parseValue db.events key else none) := by
  induction keys generalizing rebuilt db with
  | nil => simp [rebuiltSessions]
  | cons head rest induction =>
      simp only [rebuiltSessions]
      split
      · rename_i existing
        obtain ⟨events, eventSeq, recordings, recordingSeq, rows⟩ :=
          induction rebuilt db
        refine ⟨events, eventSeq, recordings, recordingSeq, fun key => ?_⟩
        rw [rows key]
        by_cases here : key = head
        · subst here
          have present : (db.projection key).isSome := by
            simpa [Db.selectSessionProjectionState] using existing
          simp [Option.or_of_isSome present]
        · simp [here]
      · rename_i absent
        have missing : db.projection head = none := by
          simpa [Db.selectSessionProjectionState] using absent
        split
        · rename_i state lastCreatedAt replayed
          obtain ⟨events, eventSeq, recordings, recordingSeq, rows⟩ :=
            induction (rebuilt + 1)
              (db.upsertSessionProjection head (.json state) lastCreatedAt)
          refine ⟨events, eventSeq, recordings, recordingSeq, fun key => ?_⟩
          rw [rows key]
          by_cases here : key = head
          · subst here
            simp only [Db.selectEventKindsForSession] at replayed
            simp [missing, rebuiltRow, replayed]
          · rw [Db.projection_upsert_ne _ _ _ (Ne.symm here)]
            simp [here]
        · rename_i unreplayed
          obtain ⟨events, eventSeq, recordings, recordingSeq, rows⟩ :=
            induction rebuilt db
          refine ⟨events, eventSeq, recordings, recordingSeq, fun key => ?_⟩
          rw [rows key]
          by_cases here : key = head
          · subst here
            simp only [Db.selectEventKindsForSession] at unreplayed
            have none' : rebuiltRow parseValue db.events key = none := by
              unfold rebuiltRow
              split
              · rename_i replayed
                exact absurd replayed (unreplayed _ _)
              · rfl
            simp [missing, none']
          · simp [here]

theorem rebuiltSessions_keyed {keys : List SessionKey} {rebuilt : Nat}
    {db : Db} (keyed : KeyedTable.Keyed Db.ProjectionRow.key db.projections) :
    KeyedTable.Keyed Db.ProjectionRow.key
      (rebuiltSessions parseValue keys rebuilt db).2.projections := by
  induction keys generalizing rebuilt db with
  | nil => exact keyed
  | cons head rest induction =>
      simp only [rebuiltSessions]
      split
      · exact induction keyed
      · split
        · exact induction (keyed.upsert _)
        · exact induction keyed

/-- Where no projection is missing, none is rebuilt. -/
theorem rebuiltSessions_present {keys : List SessionKey} {db : Db}
    (present : ∀ key ∈ keys, (db.selectSessionProjectionState key).isSome)
    (rebuilt : Nat) : rebuiltSessions parseValue keys rebuilt db = (rebuilt, db) := by
  induction keys with
  | nil => rfl
  | cons head rest induction =>
      rw [rebuiltSessions, if_pos (present head List.mem_cons_self)]
      exact induction fun key member =>
        present key (List.mem_cons_of_mem head member)

/-- The rows that a rebuild adds have their events, as those before it had. -/
theorem rebuiltSessions_wellFormed {keys : List SessionKey} (rebuilt : Nat)
    {db : Db} (wellFormed : db.WellFormed)
    (sourced : ∀ key ∈ keys, ∃ event ∈ db.events, event.key = key) :
    (rebuiltSessions parseValue keys rebuilt db).2.WellFormed := by
  obtain ⟨events, eventSeq, _, _, rows⟩ :=
    rebuiltSessions_spec parseValue keys rebuilt db
  have keyed : KeyedTable.Keyed Db.ProjectionRow.key
      (rebuiltSessions parseValue keys rebuilt db).2.projections :=
    rebuiltSessions_keyed parseValue wellFormed.keyed
  exact {
    ascending := by
      rw [events]
      exact wellFormed.ascending
    within := by
      rw [events, eventSeq]
      exact wellFormed.within
    keyed
    sourced := by
      intro row member
      have found := KeyedTable.lookup_of_mem keyed member
      rw [events]
      have origin := rows row.key
      rw [Db.projection, found] at origin
      rcases Option.or_eq_some_iff.mp origin.symm with before | ⟨_, added⟩
      · exact wellFormed.sourced row (KeyedTable.lookup_mem before)
      · split at added
        · rename_i listed
          exact sourced row.key listed
        · cases added }

/-! The fold of the log. -/

/-- One event of the log, decoded and applied. -/
def replayStep (state : Option SessionState) (row : Db.EventRow) :
    SessionState :=
  let kind := (Db.eventKindFromDbStr row.kind).getD .unknown
  transition state kind (reparseNotificationType parseValue kind row.payload)
    row.pid row.cwd row.createdAt

/-- The state of a session after its events, in order and from nothing. -/
def logView (db : Db) (key : SessionKey) : Option SessionState :=
  EventLog.view Db.EventRow.key (replayStep parseValue) db.events key

def lastCreatedAt (db : Db) (key : SessionKey) : Option Int :=
  ((EventLog.ofKey Db.EventRow.key key db.events).getLast?).map (·.createdAt)

/-- The projections are the folds of the log, for every session but the daemon's
own. -/
structure FoldsLog (db : Db) : Prop where
  decodes : ∀ row ∈ db.events, (Db.eventKindFromDbStr row.kind).isSome
  present : ∀ key, key.isSentinel = false →
    ((db.projection key).isSome ↔ ∃ row ∈ db.events, row.key = key)
  folded : ∀ key, key.isSentinel = false →
    ∀ row, db.projection key = some row →
      (∃ state, row.state = .json state ∧
        logView parseValue db key = some state) ∧
      lastCreatedAt db key = some row.updatedAt

theorem foldsLog_empty : FoldsLog parseValue Db.empty where
  decodes := by simp [Db.empty]
  present := by simp [Db.empty, Db.projection, KeyedTable.lookup]
  folded := by simp [Db.empty, Db.projection, KeyedTable.lookup]

variable {parseValue} {db next : Db}

theorem FoldsLog.stored (folds : FoldsLog parseValue db) {key : SessionKey}
    (user : key.isSentinel = false) :
    db.stored key = logView parseValue db key := by
  cases found : db.projection key with
  | none =>
      have fresh : ¬ ∃ row ∈ db.events, row.key = key := by
        rw [← folds.present key user, found]
        simp
      have empty : logView parseValue db key = none := by
        rw [logView, ← Option.not_isSome_iff_eq_none]
        rw [EventLog.view_isSome]
        exact fresh
      simp [Db.stored, Db.selectSessionProjectionState, found, empty]
  | some row =>
      obtain ⟨⟨state, json, view⟩, _⟩ := folds.folded key user row found
      simp [Db.stored, Db.selectSessionProjectionState, found, json, view,
        Db.StateText.parse]

/-- A typed envelope's transition is the replay of the row it leaves. -/
theorem envelopeTransition_replay {envelope : EventEnvelope}
    (typed : Typed parseValue envelope) (state : Option SessionState)
    (nowMs eventId : Int) :
    envelopeTransition envelope state nowMs =
      replayStep parseValue state
        ((envelopeColumns envelope nowMs).row eventId) := by
  simp only [replayStep, envelopeColumns, Db.EventColumns.row,
    Db.eventKindFromDbStr_asStr, Option.getD_some]
  exact transition_notificationType _ _ _ _ _ _ typed

/-- The write brings an envelope that is typed, or is one of the daemon's own. -/
def WriteRequest.TypedIn (parseValue : String → Option Json.Value) :
    WriteRequest → Prop
  | .event envelope _ => Typed parseValue envelope
  | .recordingStarted | .recordingEnded _ => True

theorem columns_decodes (request : WriteRequest) (nowMs : Int) :
    (Db.eventKindFromDbStr (request.columns nowMs).kind).isSome := by
  cases request <;>
    simp [WriteRequest.columns, envelopeColumns, sentinelColumns]

/-- Every write keeps the projections in step with the log. -/
theorem FoldsLog.appends {request : WriteRequest} {nowMs : Int}
    (folds : FoldsLog parseValue db) (typed : request.TypedIn parseValue)
    (appends : request.Appends nowMs db next) : FoldsLog parseValue next where
  decodes := by
    intro row member
    rw [appends.events, List.mem_append, List.mem_singleton] at member
    rcases member with member | rfl
    · exact folds.decodes row member
    · exact columns_decodes request nowMs
  present := by
    intro key user
    by_cases same : (request.columns nowMs).key = key
    · subst same
      rw [appends.projection_self, appends.events]
      simp only [Option.isSome_some, true_iff]
      exact ⟨_, List.mem_append_right _ (List.mem_singleton_self _), rfl⟩
    · rw [appends.projection_ne same, folds.present key user, appends.events]
      simp [same]
  folded := by
    intro key user row found
    by_cases same : (request.columns nowMs).key = key
    · subst same
      rw [appends.projection_self] at found
      cases found
      refine ⟨?_, ?_⟩
      · cases request with
        | event envelope precondition =>
            have before : db.stored envelope.key =
                logView parseValue db envelope.key := folds.stored user
            refine ⟨_, rfl, ?_⟩
            rw [envelopeTransition_replay typed _ nowMs (db.eventSeq + 1),
              before, logView, appends.events]
            exact EventLog.view_append_self
        | recordingStarted => cases user
        | recordingEnded recordingSessionId => cases user
      · rw [lastCreatedAt, appends.events, EventLog.ofKey_append]
        have own : EventLog.ofKey Db.EventRow.key (request.columns nowMs).key
            [(request.columns nowMs).row (db.eventSeq + 1)] =
              [(request.columns nowMs).row (db.eventSeq + 1)] :=
          EventLog.ofKey_single_self
        rw [own, List.getLast?_concat]
        simp [Db.EventColumns.row, WriteRequest.columns_createdAt]
    · rw [appends.projection_ne same] at found
      obtain ⟨⟨state, json, view⟩, last⟩ := folds.folded key user row found
      have apart :
          ((request.columns nowMs).row (db.eventSeq + 1)).key ≠ key := same
      refine ⟨⟨state, json, ?_⟩, ?_⟩
      · rw [logView, appends.events, EventLog.view_append_ne apart]
        exact view
      · rw [lastCreatedAt, appends.events, EventLog.ofKey_append,
          EventLog.ofKey_single_ne apart, List.append_nil]
        exact last

/-- The replay loop computes the fold of the log. -/
theorem replayRows_fold {rows : List Db.EventRow}
    (decodes : ∀ row ∈ rows, (Db.eventKindFromDbStr row.kind).isSome)
    (state : Option SessionState) (last : Int) :
    replayRows parseValue state last rows =
      some (rows.foldl (fun state row => some (replayStep parseValue state row))
          state,
        (rows.getLast?.map (·.createdAt)).getD last) := by
  induction rows generalizing state last with
  | nil => rfl
  | cons row rest induction =>
      obtain ⟨kind, decoded⟩ :=
        Option.isSome_iff_exists.mp (decodes row (by simp))
      have later := induction
        (fun other member => decodes other (by simp [member]))
      simp only [replayRows, decoded, later, List.foldl_cons, replayStep,
        Option.getD_some]
      congr 2
      cases rest <;> simp [List.getLast?_cons]

/-- On a log that decodes, the rebuild gives a session the row it had. -/
theorem FoldsLog.rebuiltRow (folds : FoldsLog parseValue db)
    {key : SessionKey} (user : key.isSentinel = false) :
    rebuiltRow parseValue db.events key = db.projection key := by
  have decodes : ∀ row ∈ db.events.filter (·.key = key),
      (Db.eventKindFromDbStr row.kind).isSome :=
    fun row member => folds.decodes row (List.mem_filter.mp member).1
  have view : (db.events.filter (·.key = key)).foldl
      (fun state row => some (replayStep parseValue state row)) none =
        logView parseValue db key := rfl
  rw [Projection.rebuiltRow, replayRows_fold decodes, view]
  cases found : db.projection key with
  | none =>
      have stored := folds.stored user
      rw [← stored]
      simp [Db.stored, Db.selectSessionProjectionState, found]
  | some row =>
      obtain ⟨⟨state, json, view⟩, last⟩ := folds.folded key user row found
      have named := KeyedTable.lookup_key found
      have created : (db.events.filter (·.key = key)).getLast?.map
          (·.createdAt) = some row.updatedAt := last
      rw [view, created]
      cases row
      cases named
      cases json
      rfl

theorem mem_selectDistinctSessionsFromEvents {key : SessionKey} :
    key ∈ db.selectDistinctSessionsFromEvents ↔
      key.isSentinel = false ∧ ∃ row ∈ db.events, row.key = key := by
  simp only [Db.selectDistinctSessionsFromEvents, List.mem_dedup,
    List.mem_map, List.mem_filter]
  constructor
  · rintro ⟨row, ⟨member, user⟩, rfl⟩
    exact ⟨SessionKey.isSentinel_eq_false.mpr (of_decide_eq_true user),
      row, member, rfl⟩
  · rintro ⟨user, row, member, rfl⟩
    exact ⟨row,
      ⟨member, decide_eq_true (SessionKey.isSentinel_eq_false.mp user)⟩, rfl⟩

theorem rebuildMissingProjections_events (faults : FaultPlan) :
    (Tx.run faults (rebuildMissingProjections parseValue) db).2.events =
      db.events := by
  rcases (rebuildMissingProjections_settles parseValue).run faults db with
    ⟨error, failed⟩ | done
  · rw [failed]
  · rw [done]
    exact (rebuiltSessions_spec parseValue _ 0 db).1

/-- Whatever faults the rebuild meets, the daemon opens on a sound database. -/
theorem rebuildMissingProjections_wellFormed (faults : FaultPlan)
    (wellFormed : db.WellFormed) :
    (Tx.run faults (rebuildMissingProjections parseValue)
      db).2.WellFormed := by
  rcases (rebuildMissingProjections_settles parseValue).run faults db with
    ⟨error, failed⟩ | done
  · rw [failed]
    exact wellFormed
  · rw [done]
    apply rebuiltSessions_wellFormed parseValue 0 wellFormed
    intro key listed
    exact (mem_selectDistinctSessionsFromEvents.mp listed).2

/-- The database with only some of its projection rows left. -/
def deleteProjections (keep : Db.ProjectionRow → Bool) (db : Db) : Db :=
  { db with projections := db.projections.filter keep }

/-- The rebuilt database has the rows of the old one back, but for the daemon's
own, and touches nothing that was left. -/
structure Restores (db deleted rebuilt : Db) : Prop where
  events : rebuilt.events = db.events
  eventSeq : rebuilt.eventSeq = db.eventSeq
  recordings : rebuilt.recordings = db.recordings
  keyed : KeyedTable.Keyed Db.ProjectionRow.key rebuilt.projections
  restored : ∀ key, key.isSentinel = false →
    rebuilt.projection key = db.projection key
  sentinel : ∀ key, key.isSentinel = true →
    rebuilt.projection key = deleted.projection key
  kept : ∀ key row, deleted.projection key = some row →
    rebuilt.projection key = some row

theorem FoldsLog.restores (folds : FoldsLog parseValue db)
    (wellFormed : db.WellFormed) (keep : Db.ProjectionRow → Bool) :
    let deleted := deleteProjections keep db
    Restores db deleted (rebuiltSessions parseValue
      deleted.selectDistinctSessionsFromEvents 0 deleted).2 := by
  intro deleted
  obtain ⟨events, eventSeq, recordings, _, rows⟩ := rebuiltSessions_spec
    parseValue deleted.selectDistinctSessionsFromEvents 0 deleted
  have left (key : SessionKey) :
      deleted.projection key = (db.projection key).filter keep :=
    KeyedTable.lookup_filter wellFormed.keyed keep key
  exact {
    events
    eventSeq
    recordings
    keyed := rebuiltSessions_keyed parseValue (wellFormed.keyed.filter keep)
    restored := by
      intro key user
      rw [rows key]
      cases found : deleted.projection key with
      | some row =>
          rw [left key] at found
          have same := (Option.filter_eq_some_iff.mp found).1
          rw [same]
          rfl
      | none =>
          rw [Option.none_or]
          split
          · exact folds.rebuiltRow user
          · rename_i unlisted
            rw [mem_selectDistinctSessionsFromEvents] at unlisted
            have fresh : ¬ ∃ row ∈ db.events, row.key = key :=
              fun sourced => unlisted ⟨user, sourced⟩
            rw [← folds.present key user, Option.not_isSome_iff_eq_none]
              at fresh
            exact fresh.symm
    sentinel := by
      intro key sentinel
      have unlisted : key ∉ deleted.selectDistinctSessionsFromEvents := by
        rw [mem_selectDistinctSessionsFromEvents, sentinel]
        simp
      rw [rows key, if_neg unlisted, Option.or_none]
    kept := by
      intro key row found
      rw [rows key, found]
      rfl }

end Bowerbird.Projection
