import Bowerbird.Commands.Export
import Bowerbird.Daemon.CleanHistory
import Bowerbird.Daemon.ReplayDrain
import Bowerbird.Projection.LogCopy

namespace Bowerbird.Daemon

open Protocol Foundation Projection Ingest Api Commands

/-! A session that was recorded live is exported, and its lines are posted to the
replay door of a daemon whose database is empty. -/

/-! What a run was asked to replay. -/

def ProcessLabel.posted? : ProcessLabel → Option (List UInt8)
  | .replay body => some body
  | .work _ | .main | .requestShutdown | .handle _ | .dropSenders | .receive
  | .observeShutdown | .written | .tick | .probed | .stopLiveness => none

/-- The lines that were posted, but for blanks and comments. -/
def postedRecords (trace : List (ProcessLabel × List ProcessSeen)) :
    List (List UInt8) :=
  (trace.filterMap (·.1.posted?)).flatMap fun body =>
    (Replay.lines body).filter Replay.isRecord

def ProcessSeen.response? : ProcessSeen → Option Replay.ReplayResponse
  | .replayed _ response => some response
  | .system _ | .handled _ _ | .handed _ _ => none

/-- The channel has turned no line away. -/
def Unrejected (seen : List ProcessSeen) : Prop :=
  ∀ response ∈ seen.filterMap ProcessSeen.response?, response.Unrejected

instance (seen : List ProcessSeen) : Decidable (Unrejected seen) :=
  inferInstanceAs (Decidable (∀ response ∈ _, Replay.ReplayResponse.Unrejected _))

theorem unrejected_append {seen later : List ProcessSeen} :
    Unrejected (seen ++ later) ↔ Unrejected seen ∧ Unrejected later := by
  rw [Unrejected, List.filterMap_append]
  exact List.forall_mem_append

@[simp] theorem postedRecords_append
    (trace later : List (ProcessLabel × List ProcessSeen)) :
    postedRecords (trace ++ later) =
      postedRecords trace ++ postedRecords later := by
  simp [postedRecords]

namespace Process

section Posted

variable {config : ProcessConfig} {process next final start : Process}
variable {label : ProcessLabel} {out : List ProcessSeen}
variable {trace : List (ProcessLabel × List ProcessSeen)}

theorem step_replay {body : List UInt8}
    (taken : process.step config (.replay body) = some (next, out)) :
    out = [.replayed
      ((Replay.run config.serde process.channel body).1.items.drop
        process.channel.items.length)
      (Replay.run config.serde process.channel body).2] := by
  unfold step at taken
  split at taken
  · cases taken
  · simp only at taken
    split at taken
    · cases taken
      rfl
    · cases taken

/-- What a request is answered for without a rejection has all been taken. -/
theorem accepted_step (undisturbed : Undisturbed label)
    (taken : process.step config label = some (next, out))
    (unrejected : Unrejected out) :
    accepted out =
      (postedRecords [(label, out)]).filterMap (Replay.item? config.serde) := by
  cases label with
  | replay body =>
      have reports := step_replay taken
      rw [reports] at unrejected
      have items := Replay.run_unrejected process.channel body
        (unrejected _ (List.mem_singleton_self _))
      rw [reports, items, List.drop_left]
      simp [accepted, ProcessSeen.accepted, postedRecords,
        ProcessLabel.posted?, Replay.filterMap_records]
  | handle received => cases undisturbed
  | tick => cases undisturbed
  | work | main | requestShutdown | dropSenders | receive | observeShutdown
    | written | probed | stopLiveness =>
      obtain ⟨_, moves⟩ := step_moves taken
      have nothing : accepted out = [] := by
        cases moves <;> simp [accepted, ProcessSeen.accepted]
      rw [nothing]
      rfl

theorem accepted_of_posts {ok : Process → ProcessLabel → Prop}
    (run : (machine config).labelled.Run ok start final trace)
    (undisturbed : ∀ process label, ok process label → Undisturbed label)
    (unrejected : Unrejected (trace.flatMap Prod.snd)) :
    accepted (trace.flatMap Prod.snd) =
      (postedRecords trace).filterMap (Replay.item? config.serde) := by
  refine run.invariant (fun _ trace => Unrejected (trace.flatMap Prod.snd) →
    accepted (trace.flatMap Prod.snd) =
      (postedRecords trace).filterMap (Replay.item? config.serde)) ?_ ?_
    unrejected
  · intro _
    rfl
  · intro middle next trace out label _ induction allowed taken unrejected
    obtain ⟨reported, stepped, rfl⟩ := Machine.labelled_step taken
    rw [List.flatMap_append, List.flatMap_singleton] at unrejected ⊢
    obtain ⟨early, late⟩ := unrejected_append.mp unrejected
    rw [accepted_append, postedRecords_append, List.filterMap_append,
      induction early,
      accepted_step (undisturbed middle label allowed) stepped late]

end Posted

end Process

/-! From an exported event to the row that its line becomes. -/

section Rows

variable {serde : Serde} {event : Event} {envelope : EventEnvelope}

/-- The line of an event brings the event as it was. -/
theorem item?_document (small : EventJson.InRange event)
    (reads : serde.read (Export.text (EventJson.toJson event)) =
      some (EventJson.toJson event))
    (accepted : Adapter.replayEnvelope serde.parse event = .ok envelope) :
    Replay.item? serde (Export.document event) =
      some { envelope, origin := .replay } := by
  refine Replay.item?_eq_some_iff.mpr ⟨Export.isRecord_document event, event,
    envelope, ?_, accepted, rfl⟩
  rw [Replay.readEvent, Export.document, Utf8.decode_encode, Option.bind_some,
    reads, Option.bind_some, EventJson.ofJson_toJson small]

theorem items_documents {events : List Event}
    (small : ∀ event ∈ events, EventJson.InRange event)
    (reads : ∀ event ∈ events, serde.read (Export.text (EventJson.toJson event)) =
      some (EventJson.toJson event))
    (kinds : ∀ event ∈ events, event.kind.isRecording = false ∧
      event.kind ≠ .unknown) :
    List.Forall₂
      (fun event envelope =>
        Adapter.replayEnvelope serde.parse event = .ok envelope)
      events
      (((events.map Export.document).filterMap (Replay.item? serde)).map
        (·.envelope)) := by
  induction events with
  | nil => exact .nil
  | cons event rest induction =>
      obtain ⟨ordinary, known⟩ := kinds event List.mem_cons_self
      have accepted := (Adapter.replayEnvelope_ok serde.parse).mpr
        ⟨ordinary, known, rfl⟩
      have brings := item?_document (small event List.mem_cons_self)
        (reads event List.mem_cons_self) accepted
      rw [List.map_cons, List.filterMap_cons_some brings, List.map_cons]
      refine .cons accepted (induction ?_ ?_ ?_)
      · exact fun other member => small other (List.mem_cons_of_mem event member)
      · exact fun other member => reads other (List.mem_cons_of_mem event member)
      · exact fun other member => kinds other (List.mem_cons_of_mem event member)

/-- What a replayed event is committed as. -/
theorem copies_row {commit : Commit Nat}
    (accepted : Adapter.replayEnvelope serde.parse event = .ok envelope)
    (written : envelope? commit = some envelope) :
    Copies (eventRow event) commit.row := by
  obtain ⟨_, _, same⟩ := (Adapter.replayEnvelope_ok serde.parse).mp accepted
  unfold envelope? at written
  split at written
  · rename_i other precondition asked
    cases written
    have emits : commit.event? = some (envelopeEvent envelope
        (commit.before.eventSeq + 1) commit.nowMs) := by
      rw [Commit.event?, asked]
    rw [Commit.row_event emits, same]
    rfl
  · cases written
  · cases written

theorem source_of_unwritten {commit : Commit Nat}
    (unwritten : envelope? commit = none) :
    commit.row.source = "__daemon__" := by
  apply Process.mark_source
  intro envelope precondition asked
  rw [envelope?, asked] at unwritten
  cases unwritten

/-- The user's rows are those of the envelopes, in order. -/
theorem rows_of_envelopes {events : List Event} {committed : List (Commit Nat)}
    (user : ∀ event ∈ events, event.source ≠ "__daemon__")
    (carried : List.Forall₂
      (fun event envelope =>
        Adapter.replayEnvelope serde.parse event = .ok envelope)
      events (envelopes committed)) :
    List.Forall₂ Copies (events.map eventRow)
      ((committed.map Commit.row).filter (·.source ≠ "__daemon__")) := by
  induction committed generalizing events with
  | nil =>
      cases carried
      exact .nil
  | cons commit rest induction =>
      rw [List.map_cons]
      cases written : envelope? commit with
      | none =>
          rw [List.filter_cons_of_neg (by
            simp [source_of_unwritten written])]
          rw [envelopes, List.filterMap_cons_none written] at carried
          exact induction user carried
      | some envelope =>
          rw [envelopes, List.filterMap_cons_some written] at carried
          cases carried with
          | @cons event _ others _ accepted carried =>
              have copied := copies_row accepted written
              have source : commit.row.source = event.source := by
                rw [copied]
                rfl
              have own := user event List.mem_cons_self
              rw [List.filter_cons_of_pos (by simp [source, own])]
              refine .cons copied (induction ?_ carried)
              exact fun other member =>
                user other (List.mem_cons_of_mem event member)

/-- Rows that store events are read back whole. -/
theorem map_eventRow_ofRow {rows : List Db.EventRow}
    (stored : ∀ row ∈ rows, ∃ event, row = eventRow event) :
    (rows.filterMap Events.ofRow).map eventRow = rows := by
  induction rows with
  | nil => rfl
  | cons row rest induction =>
      obtain ⟨event, rfl⟩ := stored row List.mem_cons_self
      rw [List.filterMap_cons_some (Events.ofRow_eventRow event), List.map_cons,
        induction fun other member =>
          stored other (List.mem_cons_of_mem _ member)]

end Rows

/-- Every event of the adapter's session is in the other log, in order and but for
its id and time, with nothing of a user's between or after them; and both
databases tell the same of the session. -/
structure Restored (source target : Db) (key : SessionKey) : Prop where
  log : List.Forall₂ Copies (EventLog.ofKey Db.EventRow.key key source.events)
    (target.events.filter (·.source ≠ "__daemon__"))
  projection : ∃ row copy state restored,
    source.projection key = some row ∧ row.state = .json state ∧
      target.projection key = some copy ∧ copy.state = .json restored ∧
      summary state = summary restored

section Restored

variable {parseValue : String → Option Json.Value} {source target : Db}
variable {sessionId : String}

theorem LiveLog.stored (live : LiveLog parseValue source) {row : Db.EventRow}
    (member : row ∈ source.selectEventsForSessionSince sessionId 0) :
    ∃ event, row = eventRow event ∧ event.source = Adapter.source ∧
      event.kind.isRecording = false ∧ event.kind ≠ .unknown := by
  simp only [Db.selectEventsForSessionSince, List.mem_filter, Bool.and_eq_true,
    decide_eq_true_eq] at member
  exact live.events row member.1 member.2.1.1

/-- What is exported are the events of one key. -/
theorem LiveLog.exported (live : LiveLog parseValue source)
    (sessionId : String) (positive : ∀ row ∈ source.events, 0 < row.eventId) :
    (Export.exported source sessionId).map eventRow =
      EventLog.ofKey Db.EventRow.key ⟨Adapter.source, sessionId⟩
        source.events := by
  have read : (Export.exported source sessionId).map eventRow =
      source.selectEventsForSessionSince sessionId 0 :=
    map_eventRow_ofRow fun row member => by
      obtain ⟨event, same, _⟩ := live.stored member
      exact ⟨event, same⟩
  rw [read, Db.selectEventsForSessionSince, EventLog.ofKey]
  refine List.filter_congr fun row member => ?_
  have later := positive row member
  by_cases user : row.source = "__daemon__"
  · simp [user, Db.EventRow.key, Adapter.source]
  · obtain ⟨event, rfl, own, _⟩ := live.events row member user
    simp only [eventRow_source, own] at user
    simp only [eventRow_eventId] at later
    simp [Db.EventRow.key, eventRow, own, user, later]

theorem LiveLog.kinds (live : LiveLog parseValue source) :
    ∀ event ∈ Export.exported source sessionId,
      event.source = Adapter.source ∧ event.kind.isRecording = false ∧
        event.kind ≠ .unknown := by
  intro event member
  obtain ⟨row, selected, read⟩ := List.mem_filterMap.mp member
  obtain ⟨other, rfl, facts⟩ := live.stored selected
  rw [Events.ofRow_eventRow] at read
  cases read
  exact facts

/-- Logs that agree lead to projections that agree. -/
theorem restored_of_copies {key : SessionKey} (user : key.isSentinel = false)
    (before : FoldsLog parseValue source) (after : FoldsLog parseValue target)
    (present : ∃ row ∈ source.events, row.key = key)
    (copies : List.Forall₂ Copies
      (EventLog.ofKey Db.EventRow.key key source.events)
      (target.events.filter (·.source ≠ "__daemon__"))) :
    Restored source target key := by
  have outside := SessionKey.isSentinel_eq_false.mp user
  have own : EventLog.ofKey Db.EventRow.key key target.events =
      target.events.filter (·.source ≠ "__daemon__") := by
    refine List.filter_congr fun copy member => ?_
    rw [decide_eq_decide]
    constructor
    · rintro rfl
      exact outside
    · intro named
      refine ofKey_of_copies (fun row inside => ?_) copies copy
        (List.mem_filter.mpr ⟨member, decide_eq_true named⟩)
      exact of_decide_eq_true (List.mem_filter.mp inside).2
  refine ⟨copies, ?_⟩
  have agree : (logView parseValue source key).map summary =
      (logView parseValue target key).map summary :=
    logView_summary (own ▸ copies)
  obtain ⟨row, found⟩ :=
    Option.isSome_iff_exists.mp ((before.present key user).mpr present)
  obtain ⟨⟨state, stored, folded⟩, _⟩ := before.folded key user row found
  rw [folded, Option.map_some] at agree
  obtain ⟨restored, replayed, same⟩ := Option.map_eq_some_iff.mp agree.symm
  have viewed : (logView parseValue target key).isSome := by
    rw [replayed]
    rfl
  obtain ⟨copy, projected⟩ := Option.isSome_iff_exists.mp
    ((after.present key user).mpr (EventLog.view_isSome.mp viewed))
  obtain ⟨⟨other, kept, view⟩, _⟩ := after.folded key user copy projected
  rw [replayed] at view
  cases view
  exact ⟨row, copy, state, restored, found, stored, projected, kept, same.symm⟩

end Restored

/-- A run that was posted the lines of a text, and nothing else, with no line
turned away and no write failing, and that has drained its channel. -/
structure Replayed (config : ProcessConfig) (faults : FaultPlan)
    (text : List UInt8) (final : Process)
    (trace : List (ProcessLabel × List ProcessSeen)) : Prop where
  run : (Process.machine config).labelled.Run
    (fun _ label => Process.Undisturbed label)
    (Process.boot config.serde.parse faults Db.empty) final trace
  posted : postedRecords trace =
    (Replay.lines text).filter Replay.isRecord
  unrejected : Unrejected (trace.flatMap Prod.snd)
  drained : final.Drained

section RoundTrip

variable {serde : Serde} {config : ProcessConfig} {faults : FaultPlan}
variable {source : Db} {sessionId : String} {final : Process}
variable {trace : List (ProcessLabel × List ProcessSeen)}

/-- The user's rows of a run that replays events are those events. -/
theorem Replayed.rows {events : List Event}
    (replayed : Replayed config faults (events.flatMap Export.line) final trace)
    (small : ∀ event ∈ events, EventJson.InRange event)
    (reads : ∀ event ∈ events,
      config.serde.read (Export.text (EventJson.toJson event)) =
        some (EventJson.toJson event))
    (kinds : ∀ event ∈ events, event.source = Adapter.source ∧
      event.kind.isRecording = false ∧ event.kind ≠ .unknown) :
    List.Forall₂ Copies (events.map eventRow)
      (final.system.store.db.events.filter (·.source ≠ "__daemon__")) := by
  have run := replayed.run.unlabelled
  have committed := Process.envelopes_of_drained run
    (fun _ _ allowed => allowed) replayed.drained
  rw [Process.accepted_of_posts replayed.run (fun _ _ allowed => allowed)
    replayed.unrejected, replayed.posted, Export.records_flatMap_line] at committed
  have ledger := Process.ledger_of_boot run Db.wellFormed_empty
  have opens : Process.opened config.serde.parse faults Db.empty = Db.empty :=
    Process.opened_of_folds (foldsLog_empty config.serde.parse) _ faults
  have rows : final.system.store.db.events =
      (Process.written (trace.flatMap Prod.snd)).map Commit.row := by
    have grown := ledger.chained.events
    have empty : (System.initial
        (Process.opened config.serde.parse faults Db.empty) []).store.db.events =
          [] := by
      rw [opens]
      rfl
    rw [empty] at grown
    exact grown
  rw [rows]
  have carried := items_documents small reads
    fun event member => (kinds event member).2
  rw [← committed] at carried
  refine rows_of_envelopes (fun event member => ?_) carried
  rw [(kinds event member).1]
  decide

/-- An export of a session that was recorded live is its log, one line an event
and in order; and replaying it into an empty database restores the session. -/
theorem export_replay_round_trip (reached : Reached (Recorded serde) source)
    (present : ∃ row ∈ source.events, row.source ≠ "__daemon__" ∧
      row.sessionId = sessionId)
    (ranged : Export.Ranged source)
    (reads : Export.ReadsBack serde source sessionId) :
    (∀ fuel, Export.run serde (some source) sessionId (fuel + 2) =
        some (.ok ((Export.exported source sessionId).flatMap Export.line))) ∧
      ((Export.exported source sessionId).Pairwise fun first second =>
        first.eventId < second.eventId) ∧
      (Export.exported source sessionId).map eventRow =
        EventLog.ofKey Db.EventRow.key ⟨Adapter.source, sessionId⟩
          source.events ∧
      ∀ config faults final trace, config.serde = serde →
        Replayed config faults
          ((Export.exported source sessionId).flatMap Export.line) final
          trace →
        Restored source final.system.store.db
          ⟨Adapter.source, sessionId⟩ := by
  have wellFormed := reached.wellFormed
  have live := reached.liveLog
  obtain ⟨runs, history⟩ := reached.history
  have positive : ∀ row ∈ source.events, 0 < row.eventId := by
    intro row member
    rw [history.events] at member
    obtain ⟨commit, inside, rfl⟩ := List.mem_map.mp member
    exact history.positive.2 commit inside
  obtain ⟨row, member, user, own⟩ := present
  obtain ⟨event, rfl, sourced, _⟩ := live.events row member user
  have named : (eventRow event).key = ⟨Adapter.source, sessionId⟩ := by
    rw [← own, ← sourced]
    rfl
  have known : source.selectSessionExistsById sessionId = true := by
    refine (history.exists_iff sessionId).mpr ?_
    obtain ⟨other, recorded, same⟩ := history.recorded_of_row member user
    refine ⟨other, recorded, ?_, ?_⟩
    · intro sentinel
      exact user ((congrArg (·.source) same).trans sentinel)
    · exact (congrArg (·.sessionId) same).symm.trans own
  have log := live.exported sessionId positive
  refine ⟨Export.run_lines wellFormed ranged positive known reads,
    Export.exported_ascending wellFormed sessionId, log, ?_⟩
  rintro config faults final trace rfl replayed
  have copies := replayed.rows (Export.page_ranged ranged)
    (fun event member => reads _
      (List.mem_append_left _ (List.mem_map_of_mem member))) live.kinds
  rw [log] at copies
  have folds := Process.folds_of_run replayed.run.unlabelled
    (foldsLog_empty config.serde.parse)
  exact restored_of_copies rfl live.folds folds
    ⟨_, member, named⟩ copies

end RoundTrip

/-! A hook's session, ended by the start-up probe of a second run, and sent to
replay. -/

namespace Process

instance (process : Process) : Decidable process.Drained :=
  inferInstanceAs (Decidable (_ ∧ _))

def recordsStop : List ProcessLabel :=
  startUp ++ [.handle ⟨Utf8.encode (stopLine ++ "\n"), false⟩, .receive] ++
    writeTask 2 2000

def endsStopped : List ProcessLabel :=
  [.work (.select 0), .work (.clock 0 (.ok 3000)),
    .work (.cancelled 0 false)] ++ writeTask 0 3001

def stoppedEvent : Event :=
  { eventId := 2
    source := Adapter.source
    sessionId := "a"
    kind := .stop
    reaction := none
    payload := stopLine
    createdAt := 2000
    pid := none
    cwd := none }

def endedEvent : Event :=
  { stoppedEvent with
    eventId := 3
    kind := .sessionEnded
    payload := "\x7b\"reason\":\"no_pid_at_upgrade\",\"pid\":null,\"observed_at_ms\":3000\x7d"
    createdAt := 3001 }

def endedPage : EventListResponse :=
  { events := [stoppedEvent, endedEvent]
    cursor := some 3
    oldestAvailableEventId := 2 }

def emptyPage : EventListResponse :=
  { events := []
    cursor := none
    oldestAvailableEventId := 2 }

def printed : List Json.Value :=
  [EventJson.toJson stoppedEvent, EventJson.toJson endedEvent,
    Export.responseJson endedPage, Export.responseJson emptyPage]

def exportSerde : Serde :=
  { simpleSerde with
    read text := printed.find? (Export.text · = text) }

theorem exportSerde_read (text : String) :
    exportSerde.read text = printed.find? (Export.text · = text) := by
  simp only [exportSerde]

def exportProcess : ProcessConfig :=
  { simpleProcess with serde := exportSerde }

/-- What some steps lead to from a database. -/
def after (db : Db) (labels : List ProcessLabel) : Db :=
  match (machine exportProcess).exec
      (boot exportSerde.parse FaultPlan.none db) labels with
  | some (final, _) => final.system.store.db
  | none => db

def endedDb : Db :=
  after (after Db.empty recordsStop) endsStopped

theorem reached_after {db : Db} {labels : List ProcessLabel}
    (before : Reached (Recorded exportSerde) db)
    (recorded : ∀ label ∈ labels, label.posted? = none) :
    Reached (Recorded exportSerde) (after db labels) := by
  unfold after
  split
  · rename_i final seen executed
    refine .run before (Machine.exec_run executed ?_)
    refine Machine.execMeets_of_forall fun label member process => ?_
    have unposted := recorded label member
    cases label with
    | replay body => cases unposted
    | work | main | requestShutdown | handle | dropSenders | receive
      | observeShutdown | written | tick | probed | stopLiveness => rfl
  · exact before

theorem endedDb_reached : Reached (Recorded exportSerde) endedDb :=
  reached_after (reached_after .empty (by decide)) (by decide)

theorem endedDb_pages : Events.page endedDb "a" 0 = endedPage ∧
    Events.page endedDb "a" 3 = emptyPage := by
  decide +kernel

theorem endedDb_exported :
    Export.exported endedDb "a" = [stoppedEvent, endedEvent] :=
  congrArg (·.events) endedDb_pages.1

theorem exportSerde_reads : ∀ value ∈ printed,
    exportSerde.read (Export.text value) = some value := by
  have distinct : (printed.map Export.text).Nodup := by decide +kernel
  intro value member
  rw [exportSerde_read]
  exact Export.find?_of_nodup distinct member

theorem endedDb_readsBack : Export.ReadsBack exportSerde endedDb "a" := by
  intro value member
  refine exportSerde_reads value ?_
  rw [Export.documents, endedDb_exported] at member
  have last : (([stoppedEvent, endedEvent].getLast?.map (·.eventId)).getD 0) =
      3 := rfl
  rw [last, endedDb_pages.1, endedDb_pages.2] at member
  exact member

theorem endedDb_ranged : Export.Ranged endedDb where
  eventId := by decide +kernel
  createdAt := by decide +kernel
  pid := by
    have none : ∀ row ∈ endedDb.events, row.pid = none := by decide +kernel
    intro row member pid some
    rw [none row member] at some
    cases some

/-- The item that an event's line brings. -/
def replayItem (event : Event) : IngestItem :=
  { envelope := {
      source := event.source
      sessionId := event.sessionId
      kind := event.kind
      reaction := event.reaction
      payload := event.payload
      pid := event.pid
      notificationType := Adapter.reparseNotificationType exportSerde.parse
        event.kind event.payload
      cwd := event.cwd }
    origin := .replay }

theorem item?_stoppedEvent :
    Replay.item? exportSerde (Export.document stoppedEvent) =
      some (replayItem stoppedEvent) :=
  item?_document ⟨rfl, rfl, nofun⟩ (exportSerde_reads _ (.head _))
    ((Adapter.replayEnvelope_ok _).mpr ⟨rfl, nofun, rfl⟩)

theorem item?_endedEvent :
    Replay.item? exportSerde (Export.document endedEvent) =
      some (replayItem endedEvent) :=
  item?_document ⟨rfl, rfl, nofun⟩ (exportSerde_reads _ (.tail _ (.head _)))
    ((Adapter.replayEnvelope_ok _).mpr ⟨rfl, nofun, rfl⟩)

def exportedText : List UInt8 :=
  [stoppedEvent, endedEvent].flatMap Export.line

def loaded : Channel IngestItem :=
  { capacity := 2
    items := [replayItem stoppedEvent, replayItem endedEvent]
    closed := false
    bounded := le_refl _ }

theorem replay_loads :
    Replay.run exportSerde (Channel.empty IngestItem 2) exportedText =
      (loaded, ⟨2, []⟩) := by
  rw [Replay.run, exportedText, Export.lines_flatMap_line]
  refine (Replay.runLines_sent 1 _ _ item?_stoppedEvent rfl).trans ?_
  refine (Replay.runLines_sent 2 _ _ item?_endedEvent rfl).trans ?_
  rfl

/-- A channel without a receiver takes no line. -/
theorem replay_closed :
    Replay.run exportSerde (Channel.empty IngestItem 2).drop exportedText =
      ((Channel.empty IngestItem 2).drop,
        ⟨0, [⟨1, Replay.sendError .closed⟩, ⟨2, Replay.sendError .closed⟩]⟩) := by
  rw [Replay.run, exportedText, Export.lines_flatMap_line]
  refine (Replay.runLines_rejected 1 _ _ item?_stoppedEvent rfl).trans ?_
  refine (Replay.runLines_rejected 2 _ _ item?_endedEvent rfl).trans ?_
  rfl

def comesUp (labels : List ProcessLabel) :
    Option (Process × List (ProcessLabel × List ProcessSeen)) :=
  (machine exportProcess).labelled.exec
    (boot exportSerde.parse FaultPlan.none Db.empty) labels

theorem replay_taken {process : Process} {body : List UInt8}
    {channel : Channel IngestItem} {response : Replay.ReplayResponse}
    (running : process.exited = false) (accepting : process.accepting = true)
    (runs : Replay.run exportSerde process.channel body = (channel, response)) :
    (machine exportProcess).labelled.step process (.replay body) =
      some ({ process with channel },
        [(.replay body, [.replayed
          (channel.items.drop process.channel.items.length) response])]) := by
  have stepped : process.step exportProcess (.replay body) =
      some ({ process with channel }, [.replayed
        (channel.items.drop process.channel.items.length) response]) := by
    unfold step
    rw [if_neg (by rw [running]; nofun)]
    dsimp only
    rw [if_pos accepting]
    exact congrArg (fun result : Channel IngestItem × Replay.ReplayResponse =>
      some (({ process with channel := result.1 } : Process),
        [ProcessSeen.replayed
          (result.1.items.drop process.channel.items.length) result.2])) runs
  change ((process.step exportProcess (.replay body)).map _) = _
  rw [stepped]
  rfl

def up (labels : List ProcessLabel) :
    Process × List (ProcessLabel × List ProcessSeen) :=
  (comesUp labels).getD (boot exportSerde.parse FaultPlan.none Db.empty, [])

theorem comesUp_up {labels : List ProcessLabel}
    (comes : (comesUp labels).isSome = true) :
    comesUp labels = some (up labels) := by
  obtain ⟨result, same⟩ := Option.isSome_iff_exists.mp comes
  rw [up, same]
  rfl

/-- The exported text, posted once to a daemon that is up. -/
theorem text_posted (ok : Process → ProcessLabel → Prop)
    (first last : List ProcessLabel) {channel : Channel IngestItem}
    {response : Replay.ReplayResponse}
    (allowed : ∀ label ∈ first ++ .replay exportedText :: last,
      ∀ process, ok process label)
    (comes : (comesUp first).isSome = true)
    (ready : (up first).1.exited = false ∧ (up first).1.accepting = true ∧
      postedRecords (up first).2 = [])
    (runs : Replay.run exportSerde (up first).1.channel exportedText =
      (channel, response))
    (check : Process → List ProcessSeen → Bool)
    (passes : (((machine exportProcess).labelled.exec
        { (up first).1 with channel } last).any fun result =>
      check result.1 ((up first).2.flatMap Prod.snd ++
          .replayed (channel.items.drop (up first).1.channel.items.length)
            response :: result.2.flatMap Prod.snd) &&
        decide (postedRecords result.2 = [])) = true) :
    ∃ final trace, (machine exportProcess).labelled.Run ok
        (boot exportSerde.parse FaultPlan.none Db.empty) final trace ∧
      postedRecords trace = (Replay.lines exportedText).filter Replay.isRecord ∧
      check final (trace.flatMap Prod.snd) = true := by
  obtain ⟨running, accepting, quiet⟩ := ready
  have early : (machine exportProcess).labelled.Run ok
      (boot exportSerde.parse FaultPlan.none Db.empty) (up first).1
      (up first).2 := Machine.exec_run (comesUp_up comes)
    (Machine.execMeets_of_forall fun label member =>
      allowed label (List.mem_append_left _ member))
  have taken := replay_taken running accepting runs
  have meets : (machine exportProcess).labelled.execMeets ok
      { (up first).1 with channel } last :=
    Machine.execMeets_of_forall fun label member =>
      allowed label (List.mem_append_right _ (.tail _ member))
  obtain ⟨final, trace, late, checked⟩ := Machine.exec_check meets _ passes
  simp only [Bool.and_eq_true, decide_eq_true_eq] at checked
  refine ⟨final, _, (Machine.Run.step early (allowed _
    (List.mem_append_right _ (.head _)) _) taken).trans late, ?_, ?_⟩
  · rw [postedRecords_append, postedRecords_append, checked.2, quiet,
      List.append_nil, List.nil_append]
    simp [postedRecords, ProcessLabel.posted?]
  · rw [List.flatMap_append, List.flatMap_append, List.flatMap_singleton,
      List.append_assoc, List.singleton_append]
    exact checked.1

def restores : List ProcessLabel :=
  [.receive] ++ writeTask 2 4000 ++ [.written, .receive] ++ writeTask 3 4001

end Process

theorem export_replay_round_trip_ended :
    ∃ (final : Process) (trace : List (ProcessLabel × List ProcessSeen)),
      (final.system.store.db.events.map fun row => (row.eventId, row.kind)) =
          [(1, "RecordingStarted"), (2, "Stop"), (3, "SessionEnded")] ∧
        Replayed Process.exportProcess FaultPlan.none Process.exportedText final
          trace ∧
        Restored Process.endedDb final.system.store.db ⟨Adapter.source, "a"⟩ := by
  have ⟨final, trace, run, posted, checked⟩ := Process.text_posted
    (fun _ label => Process.Undisturbed label) Process.startUp Process.restores
    (by simp [Process.startUp, Process.restores, Process.writeTask,
      Process.Undisturbed, System.Unfailing])
    (by decide +kernel) (by decide +kernel) Process.replay_loads
    (fun final seen => decide (final.Drained ∧ Unrejected seen ∧
      (final.system.store.db.events.map fun row => (row.eventId, row.kind)) =
        [(1, "RecordingStarted"), (2, "Stop"), (3, "SessionEnded")]))
    (by decide +kernel)
  obtain ⟨drained, unrejected, rows⟩ := of_decide_eq_true checked
  have replayed : Replayed Process.exportProcess FaultPlan.none
      Process.exportedText final trace := ⟨run, posted, unrejected, drained⟩
  obtain ⟨_, _, _, restores⟩ := export_replay_round_trip
    Process.endedDb_reached ⟨eventRow Process.stoppedEvent, by decide +kernel⟩
    Process.endedDb_ranged Process.endedDb_readsBack
  refine ⟨final, trace, rows, replayed,
    restores Process.exportProcess FaultPlan.none final trace rfl ?_⟩
  rw [Process.endedDb_exported]
  exact replayed

/-! The same text, sent where a write fails, and where a shutdown has closed the
channel. -/

namespace Process

/-- No hook comes in and no probe ticks. -/
def Unhooked : ProcessLabel → Prop
  | .handle _ | .tick => False
  | _ => True

def losesFirst : List ProcessLabel :=
  [.receive, .work (.begin 2 4000), .work (.transact fun _ => true),
    .work .finish, .written, .receive] ++ writeTask 3 4001

def shutsDown : List ProcessLabel :=
  startUp ++ [.requestShutdown, .observeShutdown]

def userRows (process : Process) : List Db.EventRow :=
  process.system.store.db.events.filter (·.source ≠ "__daemon__")

theorem not_restored {final : Process} (short : final.userRows.length < 2) :
    ¬ Restored endedDb final.system.store.db ⟨Adapter.source, "a"⟩ := by
  intro restored
  have same := restored.log.length_eq
  have two : (EventLog.ofKey Db.EventRow.key ⟨Adapter.source, "a"⟩
      endedDb.events).length = 2 := by decide +kernel
  rw [two] at same
  exact absurd same.symm (Nat.ne_of_lt short)

end Process

theorem export_replay_loses_events :
    Reached (Recorded Process.exportSerde) Process.endedDb ∧
      Export.run Process.exportSerde (some Process.endedDb) "a" 2 =
        some (.ok Process.exportedText) ∧
      (∃ (final : Process) (trace : List (ProcessLabel × List ProcessSeen)),
        (Process.machine Process.exportProcess).labelled.Run
          (fun _ label => Process.Unhooked label)
          (Process.boot Process.exportSerde.parse FaultPlan.none Db.empty) final
          trace ∧
        postedRecords trace =
          (Replay.lines Process.exportedText).filter Replay.isRecord ∧
        Unrejected (trace.flatMap Prod.snd) ∧ final.Drained ∧
        ¬ Restored Process.endedDb final.system.store.db
          ⟨Adapter.source, "a"⟩) ∧
      ∃ (final : Process) (trace : List (ProcessLabel × List ProcessSeen)),
        (Process.machine Process.exportProcess).labelled.Run
          (fun _ label => Process.Undisturbed label)
          (Process.boot Process.exportSerde.parse FaultPlan.none Db.empty) final
          trace ∧
        postedRecords trace =
          (Replay.lines Process.exportedText).filter Replay.isRecord ∧
        (∀ response ∈ (trace.flatMap Prod.snd).filterMap ProcessSeen.response?,
          ∀ entry ∈ response.parseErrors,
            entry.error ≠ Replay.sendError .full) ∧
        final.Drained ∧
        ¬ Restored Process.endedDb final.system.store.db
          ⟨Adapter.source, "a"⟩ := by
  refine ⟨Process.endedDb_reached, ?_, ?_, ?_⟩
  · have written := Export.run_lines Process.endedDb_reached.wellFormed
      Process.endedDb_ranged (by decide +kernel) (by decide +kernel)
      Process.endedDb_readsBack 0
    rw [Process.endedDb_exported] at written
    exact written
  · have ⟨final, trace, run, posted, checked⟩ := Process.text_posted
      (fun _ label => Process.Unhooked label) Process.startUp
      Process.losesFirst
      (by simp [Process.startUp, Process.losesFirst, Process.writeTask,
        Process.Unhooked])
      (by decide +kernel) (by decide +kernel) Process.replay_loads
      (fun final seen => decide (final.Drained ∧ Unrejected seen ∧
        final.userRows.length < 2))
      (by decide +kernel)
    obtain ⟨drained, unrejected, short⟩ := of_decide_eq_true checked
    exact ⟨final, trace, run, posted, unrejected, drained,
      Process.not_restored short⟩
  · have ⟨final, trace, run, posted, checked⟩ := Process.text_posted
      (fun _ label => Process.Undisturbed label) Process.shutsDown []
      (by simp [Process.shutsDown, Process.startUp, Process.writeTask,
        Process.Undisturbed, System.Unfailing])
      (by decide +kernel) (by decide +kernel) Process.replay_closed
      (fun final seen => decide (final.Drained ∧
        (∀ response ∈ seen.filterMap ProcessSeen.response?,
          ∀ entry ∈ response.parseErrors,
            entry.error ≠ Replay.sendError .full) ∧
        final.userRows.length < 2))
      (by decide +kernel)
    obtain ⟨drained, room, short⟩ := of_decide_eq_true checked
    exact ⟨final, trace, run, posted, room, drained,
      Process.not_restored short⟩

end Bowerbird.Daemon
