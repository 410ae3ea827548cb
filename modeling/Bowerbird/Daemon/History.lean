import Bowerbird.Daemon.RecordingWindow

namespace Bowerbird.Daemon

open Protocol Foundation Projection Ingest Api

/-! Successive runs on one database, each cut off anywhere: where they lead, and
what each of them was seen to do. -/

inductive History (ok : ProcessConfig → Process → ProcessLabel → Prop) :
    Db → List (List ProcessSeen) → Prop
  | empty : History ok Db.empty []
  | run {config : ProcessConfig} {faults : FaultPlan} {db : Db}
      {runs : List (List ProcessSeen)} {final : Process}
      {seen : List ProcessSeen} (before : History ok db runs)
      (ran : (Process.machine config).Run (ok config)
        (Process.boot config.serde.parse faults db) final seen) :
      History ok final.system.store.db (runs ++ [seen])

/-- The commits of all runs, in order. -/
def committed (runs : List (List ProcessSeen)) : List (Commit Nat) :=
  runs.flatMap Process.written

/-- The events that have been written, in order. -/
def recorded (runs : List (List ProcessSeen)) : List Event :=
  (committed runs).filterMap Commit.event?

/-- The events that a run has broadcast, in order. -/
def broadcasts (seen : List ProcessSeen) : List Event :=
  (published ((systemSeen seen).flatMap System.storeSeen)).filterMap
    BroadcastEnvelope.event?

@[simp] theorem committed_snoc (runs : List (List ProcessSeen))
    (seen : List ProcessSeen) :
    committed (runs ++ [seen]) = committed runs ++ Process.written seen := by
  simp [committed]

section History

variable {ok : ProcessConfig → Process → ProcessLabel → Prop} {db : Db}
variable {runs : List (List ProcessSeen)}

theorem History.reached (history : History ok db runs) : Reached ok db := by
  induction history with
  | empty => exact .empty
  | run before ran induction => exact .run induction ran

theorem Reached.history (reached : Reached ok db) :
    ∃ runs, History ok db runs := by
  induction reached with
  | empty => exact ⟨[], .empty⟩
  | run _ ran induction =>
      obtain ⟨runs, before⟩ := induction
      exact ⟨_, .run before ran⟩

/-- The rows of the log are those of the commits, whoever was running. -/
theorem History.events (history : History ok db runs) :
    db.events = (committed runs).map Commit.row := by
  induction history with
  | empty => rfl
  | @run config faults db runs final seen before ran induction =>
      have ledger := Process.ledger_of_boot ran before.reached.wellFormed
      have opened : (Process.opened config.serde.parse faults db).events =
          db.events :=
        rebuildMissingProjections_events faults
      rw [committed_snoc, List.map_append, ← induction, ← opened]
      exact ledger.chained.events

theorem opened_cases (parseValue : String → Option Json.Value)
    (faults : FaultPlan) (db : Db) :
    Process.opened parseValue faults db = db ∨
      Process.opened parseValue faults db =
        (rebuiltSessions parseValue db.selectDistinctSessionsFromEvents 0
          db).2 := by
  rcases (rebuildMissingProjections_settles parseValue).run faults db with
    ⟨error, failed⟩ | done
  · rw [Process.opened, failed]
    exact .inl rfl
  · rw [Process.opened, done]
    exact .inr rfl

/-- The rebuild takes no projection away. -/
theorem opened_projection_kept {parseValue : String → Option Json.Value}
    {faults : FaultPlan} {key : SessionKey}
    (present : (db.projection key).isSome) :
    ((Process.opened parseValue faults db).projection key).isSome := by
  rcases opened_cases parseValue faults db with same | rebuilt
  · rw [same]
    exact present
  · obtain ⟨_, _, _, _, rows⟩ := rebuiltSessions_spec parseValue
      db.selectDistinctSessionsFromEvents 0 db
    rw [rebuilt, rows key, Option.isSome_or, present]
    rfl

/-- What holds of the rows found and of those rebuilt holds of all. -/
theorem opened_rows {parseValue : String → Option Json.Value}
    {faults : FaultPlan} {holds : Db.ProjectionRow → Prop}
    (wellFormed : db.WellFormed) (found : ∀ row ∈ db.projections, holds row)
    (rebuilt : ∀ key row, rebuiltRow parseValue db.events key = some row →
      holds row) :
    ∀ row ∈ (Process.opened parseValue faults db).projections, holds row := by
  intro row member
  have keyed : (Process.opened parseValue faults db).WellFormed :=
    rebuildMissingProjections_wellFormed faults wellFormed
  have own := KeyedTable.lookup_of_mem keyed.keyed member
  rcases opened_cases parseValue faults db with same | built
  · rw [same] at member
    exact found row member
  · obtain ⟨_, _, _, _, rows⟩ := rebuiltSessions_spec parseValue
      db.selectDistinctSessionsFromEvents 0 db
    rw [built] at own
    have origin := (rows row.key).symm.trans own
    rcases Option.or_eq_some_iff.mp origin with before | ⟨_, added⟩
    · exact found row (KeyedTable.lookup_mem before)
    · split at added
      · exact rebuilt row.key row added
      · cases added

/-- Every session in the log has its projection. -/
theorem History.projected (history : History ok db runs) :
    ∀ row ∈ db.events, (db.projection row.key).isSome := by
  induction history with
  | empty =>
      intro row member
      cases member
  | @run config faults db runs final seen before ran induction =>
      have ledger := Process.ledger_of_boot ran before.reached.wellFormed
      intro row member
      rw [ledger.chained.events, List.mem_append] at member
      rcases member with member | member
      · apply ledger.chained.projection_kept
        apply opened_projection_kept
        apply induction row
        rw [← (rebuildMissingProjections_events faults : _ = db.events)]
        exact member
      · obtain ⟨commit, inside, rfl⟩ := List.mem_map.mp member
        exact ledger.chained.committed_projection inside

/-- A commit whose row is a user's is that of an event. -/
theorem emits_of_user {commit : Commit Nat}
    (user : commit.row.source ≠ "__daemon__") :
    ∃ event, commit.event? = some event := by
  cases asked : commit.request with
  | event envelope precondition =>
      exact ⟨_, by rw [Commit.event?, asked]⟩
  | recordingStarted =>
      exact absurd (Process.mark_source (by simp [asked])) user
  | recordingEnded id =>
      exact absurd (Process.mark_source (by simp [asked])) user

/-- What a page of a session's history asks of an event. -/
def pages (sessionId : String) (since : Int) (event : Event) : Bool :=
  event.source ≠ "__daemon__" && event.sessionId = sessionId &&
    since < event.eventId

/-- The rows of a page are read back as the events they were written for. -/
theorem read_rows (sessionId : String) (since : Int)
    (commits : List (Commit Nat)) :
    ((commits.map Commit.row).filter fun row =>
        row.source ≠ "__daemon__" && row.sessionId = sessionId &&
          since < row.eventId).filterMap Events.ofRow =
      (commits.filterMap Commit.event?).filter (pages sessionId since) := by
  induction commits with
  | nil => rfl
  | cons commit rest induction =>
      cases emits : commit.event? with
      | none =>
          have sentinel : commit.row.source = "__daemon__" := by
            by_contra user
            obtain ⟨event, some⟩ := emits_of_user user
            rw [emits] at some
            cases some
          rw [List.filterMap_cons_none emits, ← induction, List.map_cons,
            List.filter_cons_of_neg (by simp [sentinel])]
      | some event =>
          have same : commit.row = eventRow event := Commit.row_event emits
          rw [List.filterMap_cons_some emits, List.map_cons, same]
          rw [List.filter_cons, List.filter_cons, ← induction]
          cases paged : pages sessionId since event with
          | false => exact congrArg _ (if_neg (Bool.eq_false_iff.mp paged))
          | true =>
              refine (congrArg _ (if_pos paged)).trans ?_
              exact List.filterMap_cons_some (Events.ofRow_eventRow event)

theorem History.ascending (history : History ok db runs) :
    (recorded runs).Pairwise fun first second =>
      first.eventId < second.eventId := by
  have rows := history.reached.wellFormed.ascending
  rw [history.events] at rows
  have kept := rows.sublist
    (List.Sublist.map Commit.row (List.filter_sublist (p := Commit.isEvent)))
  rw [← event_rows, List.pairwise_map] at kept
  exact kept

theorem History.exists_iff (history : History ok db runs)
    (sessionId : String) :
    db.selectSessionExistsById sessionId = true ↔
      ∃ event ∈ recorded runs, event.source ≠ "__daemon__" ∧
        event.sessionId = sessionId := by
  rw [Db.selectSessionExistsById, List.any_eq_true]
  constructor
  · rintro ⟨row, member, named⟩
    simp only [Bool.and_eq_true, decide_eq_true_eq] at named
    obtain ⟨stored, inside, key⟩ :=
      history.reached.wellFormed.sourced row member
    have source : stored.source = row.source := congrArg (·.source) key
    have session : stored.sessionId = row.sessionId :=
      congrArg (·.sessionId) key
    rw [history.events] at inside
    obtain ⟨commit, written, rfl⟩ := List.mem_map.mp inside
    obtain ⟨event, emits⟩ := emits_of_user (source.symm ▸ named.2)
    have same := Commit.row_event emits
    refine ⟨event, List.mem_filterMap.mpr ⟨commit, written, emits⟩, ?_, ?_⟩
    · have own : event.source = row.source := by rw [← source, same]; rfl
      exact own.symm ▸ named.2
    · rw [← named.1, ← session, same]
      rfl
  · rintro ⟨event, member, user, rfl⟩
    obtain ⟨commit, written, emits⟩ := List.mem_filterMap.mp member
    have same := Commit.row_event emits
    have inside : commit.row ∈ db.events := by
      rw [history.events]
      exact List.mem_map_of_mem written
    obtain ⟨row, found⟩ :=
      Option.isSome_iff_exists.mp (history.projected _ inside)
    have key : row.key = (eventRow event).key :=
      same ▸ KeyedTable.lookup_key found
    refine ⟨row, KeyedTable.lookup_mem found, ?_⟩
    have source : row.source = event.source := congrArg (·.source) key
    have session : row.sessionId = event.sessionId :=
      congrArg (·.sessionId) key
    simp [source, session, user]

/-- The live and the historical view of what was written. -/
structure OneView (db : Db) (runs : List (List ProcessSeen)) : Prop where
  /-- A row is read back as the event of its write. -/
  decoded : ∀ commit ∈ committed runs, ∀ event, commit.event? = some event →
    commit.row ∈ db.events ∧ Events.ofRow commit.row = some event
  /-- A run broadcasts the events of its writes, but for one still in flight. -/
  broadcast : ∀ seen ∈ runs, ∃ owed : List Event, owed.length ≤ 1 ∧
    (Process.written seen).filterMap Commit.event? = broadcasts seen ++ owed
  ascending : (recorded runs).Pairwise fun first second =>
    first.eventId < second.eventId
  listed : ∀ sessionId since,
    (∃ event ∈ recorded runs, event.source ≠ "__daemon__" ∧
      event.sessionId = sessionId) →
    ∃ response, Events.list sessionId since (some db) = .ok response ∧
      response.events = (recorded runs).filter (pages sessionId since) ∧
      response.cursor = response.events.getLast?.map (·.eventId)
  unknown : ∀ sessionId since,
    (∀ event ∈ recorded runs, event.source ≠ "__daemon__" →
      event.sessionId ≠ sessionId) →
    Events.list sessionId since (some db) = .error (.notFound "session not found")

theorem History.broadcast (history : History ok db runs) :
    ∀ seen ∈ runs, ∃ owed : List Event, owed.length ≤ 1 ∧
      (Process.written seen).filterMap Commit.event? =
        broadcasts seen ++ owed := by
  induction history with
  | empty => simp
  | @run config faults db runs final seen before ran induction =>
      intro other member
      rcases List.mem_append.mp member with member | member
      · exact induction other member
      · rw [List.mem_singleton] at member
        subst member
        have ledger := Process.ledger_of_boot ran before.reached.wellFormed
        refine ⟨_, owed_events final.system.store, ?_⟩
        rw [broadcasts, ← List.filterMap_append, ledger.announced,
          announced_events]
        rfl

/-- What was broadcast for a write is what its row is read back as, and the
history of a session is what was broadcast of it. -/
theorem live_and_listed_events_agree (history : History ok db runs) :
    OneView db runs where
  decoded := by
    intro commit member event emits
    rw [history.events]
    refine ⟨List.mem_map_of_mem member, ?_⟩
    rw [Commit.row_event emits]
    exact Events.ofRow_eventRow event
  broadcast := history.broadcast
  ascending := history.ascending
  listed := by
    intro sessionId since named
    obtain ⟨response, answered, events⟩ :=
      Events.list_found since ((history.exists_iff sessionId).mpr named)
    refine ⟨response, answered, ?_, ?_⟩
    · rw [events, Db.selectEventsForSessionSince, history.events, read_rows]
      rfl
    · obtain ⟨_, _, _, _, cursor⟩ := Events.list_ok answered
      exact cursor
  unknown := by
    intro sessionId since absent
    have missing : ¬ db.selectSessionExistsById sessionId = true := by
      rw [history.exists_iff]
      rintro ⟨event, member, user, own⟩
      exact absent event member user own
    rw [Events.list, if_neg missing]

end History

/-- A session that one run replays and the next one's start-up probe ends. -/
theorem live_and_listed_events_agree_endsLeftSession :
    ∃ db runs, (runs.length = 2 ∧ (recorded runs).map (·.kind) =
        [.stop, .sessionEnded]) ∧
      OneView db runs := by
  have ⟨first, seen, run, checked⟩ := Machine.exec_check
    ((Process.machine Process.simpleProcess).execMeets_true
      (Process.boot Process.simpleSerde.parse FaultPlan.none Db.empty)
      Process.leavesSession)
    (fun result : Process × List ProcessSeen =>
      decide (result.1.system.store.db = Process.leftDb ∧
        ((Process.written result.2).filterMap Commit.event?).map (·.kind) =
          [.stop]))
    (by decide)
  obtain ⟨left, stop⟩ := of_decide_eq_true checked
  have before : History (fun _ _ _ => True) Process.leftDb [seen] :=
    left ▸ History.run .empty run
  have ⟨final, later, ran, ended⟩ := Machine.exec_check
    ((Process.machine Process.simpleProcess).execMeets_true
      (Process.boot Process.simpleSerde.parse FaultPlan.none Process.leftDb)
      Process.endsLeftSession)
    (fun result : Process × List ProcessSeen =>
      decide (((Process.written result.2).filterMap Commit.event?).map
        (·.kind) = [.sessionEnded]))
    (by decide)
  refine ⟨_, [seen] ++ [later], ⟨rfl, ?_⟩,
    live_and_listed_events_agree (before.run ran)⟩
  rw [recorded, committed_snoc, List.filterMap_append, List.map_append,
    of_decide_eq_true ended]
  rw [committed, List.flatMap_cons, List.flatMap_nil, List.append_nil, stop]
  rfl

end Bowerbird.Daemon
