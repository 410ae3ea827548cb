import Bowerbird.Daemon.History
import Bowerbird.Daemon.Markers
import Bowerbird.Daemon.World

namespace Bowerbird.Daemon

open Protocol Foundation Projection Ingest Api

/-! The recordings table along the runs on one database: one row for each run
that has opened its window, closed by that run alone. -/

namespace Process

section Chain

variable {db final : Db} {committed : List (Commit Nat)}

/-- Events open no window and close none. -/
theorem Plain.recordings (plain : Plain committed)
    (chained : Chained db committed final) :
    final.recordings = db.recordings ∧
      final.recordingSeq = db.recordingSeq := by
  induction committed generalizing db with
  | nil =>
      rw [chained]
      exact ⟨rfl, rfl⟩
  | cons commit rest induction =>
      obtain ⟨rfl, ⟨result, outcome⟩, _, chained⟩ := chained
      obtain ⟨recordings, recordingSeq⟩ :=
        induction (fun other member => plain other (by simp [member])) chained
      obtain ⟨envelope, precondition, asked⟩ := plain commit (by simp)
      rw [asked] at outcome
      simp only [WriteRequest.outcome] at outcome
      split at outcome
      · obtain ⟨_, after⟩ := Prod.mk.inj outcome
        rw [recordings, recordingSeq, ← Option.some.inj after]
        exact ⟨rfl, rfl⟩
      · cases outcome

theorem started_recordings {commit : Commit Nat}
    {result : Except SqlError Outcome}
    (outcome : commit.request.outcome commit.nowMs commit.before =
      (result, some commit.after))
    (marks : commit.request = .recordingStarted) :
    commit.after.recordings = commit.before.recordings ++
        [⟨commit.before.recordingSeq + 1, commit.row.eventId, none⟩] ∧
      commit.after.recordingSeq = commit.before.recordingSeq + 1 := by
  rw [marks] at outcome
  obtain ⟨_, after⟩ := Prod.mk.inj outcome
  rw [← Option.some.inj after]
  exact ⟨rfl, rfl⟩

theorem ended_recordings {commit : Commit Nat} {id : Int}
    {result : Except SqlError Outcome}
    (outcome : commit.request.outcome commit.nowMs commit.before =
      (result, some commit.after))
    (closes : commit.request = .recordingEnded id) :
    commit.after.recordings = commit.before.recordings.map (fun row =>
        if row.id = id then { row with endedEventId := some commit.row.eventId }
        else row) ∧
      commit.after.recordingSeq = commit.before.recordingSeq := by
  rw [closes] at outcome
  simp only [WriteRequest.outcome] at outcome
  split at outcome
  · cases outcome
  · obtain ⟨_, after⟩ := Prod.mk.inj outcome
    rw [← Option.some.inj after]
    exact ⟨rfl, rfl⟩

/-- Ids of recordings are handed out in ascending order. -/
def Numbered (db : Db) : Prop :=
  ∀ row ∈ db.recordings, row.id ≤ db.recordingSeq

theorem Marked.recordings {id : Int} (marked : Marked id committed)
    (chained : Chained db committed final) :
    ∃ probed mark middle, committed = probed ++ mark :: middle ∧
      Plain probed ∧ Probed probed ∧ mark.request = .recordingStarted ∧
      Plain middle ∧ id = db.recordingSeq + 1 ∧
      final.recordings = db.recordings ++ [⟨id, mark.row.eventId, none⟩] ∧
      final.recordingSeq = id := by
  obtain ⟨probed, mark, middle, rfl, early, own, marks, named, late⟩ := marked
  obtain ⟨opened, first, second⟩ := chained.split
  obtain ⟨before, ⟨result, outcome⟩, _, second⟩ := second
  obtain ⟨rows, seq⟩ := started_recordings outcome marks
  obtain ⟨earlyRows, earlySeq⟩ := early.recordings first
  obtain ⟨lateRows, lateSeq⟩ := late.recordings second
  refine ⟨probed, mark, middle, rfl, early, own, marks, late, ?_, ?_, ?_⟩
  · rw [← named, before, earlySeq]
  · rw [lateRows, rows, named, before, earlyRows]
  · rw [lateSeq, seq, named]

/-- A run that has closed its window: its two markers, and between them every
event but the start-up probe's. -/
def Closes (committed : List (Commit Nat)) (mark last : Commit Nat) : Prop :=
  ∃ probed middle, committed = probed ++ mark :: middle ++ [last] ∧
    Plain probed ∧ Probed probed ∧ mark.request = .recordingStarted ∧
    Plain middle ∧ ∃ id, last.request = .recordingEnded id

/-- The run has committed its end marker. -/
def Ended (committed : List (Commit Nat)) : Prop :=
  ∃ commit ∈ committed, ∃ id, commit.request = .recordingEnded id

theorem Plain.not_ended (plain : Plain committed) : ¬ Ended committed := by
  rintro ⟨commit, member, id, closes⟩
  obtain ⟨envelope, precondition, asked⟩ := plain commit member
  rw [closes] at asked
  cases asked

theorem Marked.not_ended {id : Int} (marked : Marked id committed) :
    ¬ Ended committed := by
  obtain ⟨probed, mark, middle, rfl, early, _, marks, _, late⟩ := marked
  rintro ⟨commit, member, other, closes⟩
  rcases List.mem_append.mp member with member | member
  · exact early.not_ended ⟨commit, member, other, closes⟩
  · rcases List.mem_cons.mp member with rfl | member
    · rw [marks] at closes
      cases closes
    · exact late.not_ended ⟨commit, member, other, closes⟩

/-- What a run adds to the recordings: nothing that is closed, or the one window
it has closed. -/
inductive Adds (db final : Db) (committed : List (Commit Nat)) : Prop
  | unclosed (fresh : List Db.RecordingRow)
      (rows : final.recordings = db.recordings ++ fresh)
      (unended : ∀ row ∈ fresh, row.endedEventId = none)
      (running : ¬ Ended committed)
  | closed (id : Int) (mark last : Commit Nat)
      (closes : Closes committed mark last)
      (rows : final.recordings = db.recordings ++
        [⟨id, mark.row.eventId, some last.row.eventId⟩])

theorem Shape.adds (shape : Shape committed) (numbered : Numbered db)
    (chained : Chained db committed final) :
    Numbered final ∧ Adds db final committed := by
  have opens {id : Int} {during : List (Commit Nat)} {middle : Db}
      (marked : Marked id during) (chained : Chained db during middle) :
      Numbered middle := by
    obtain ⟨_, mark, _, _, _, _, _, _, first, rows, seq⟩ :=
      marked.recordings chained
    intro row member
    rw [rows, List.mem_append, List.mem_singleton] at member
    rw [seq]
    rcases member with member | rfl
    · have old := numbered row member
      omega
    · exact le_refl _
  cases shape with
  | unmarked plain =>
      obtain ⟨rows, seq⟩ := plain.recordings chained
      refine ⟨?_, .unclosed [] (by simp [rows]) (by simp) plain.not_ended⟩
      rw [Numbered, rows, seq]
      exact numbered
  | opened id marked =>
      refine ⟨opens marked chained, ?_⟩
      obtain ⟨_, mark, _, _, _, _, _, _, _, rows, _⟩ :=
        marked.recordings chained
      exact .unclosed _ rows (by simp) marked.not_ended
  | closed id during last marked whole closes =>
      subst whole
      obtain ⟨middle, first, before, ⟨result, outcome⟩, _, after⟩ :=
        chained.split
      obtain ⟨probed, mark, rest, rfl, early, own, marks, late, new, rows, seq⟩ :=
        marked.recordings first
      obtain ⟨endedRows, endedSeq⟩ := ended_recordings outcome closes
      have final' : final = last.after := after
      have old : db.recordings.map (fun row =>
          if row.id = id then
            { row with endedEventId := some last.row.eventId }
          else row) = db.recordings := by
        refine (List.map_congr_left ?_).trans (List.map_id _)
        intro row member
        have bound := numbered row member
        rw [if_neg (by omega)]
        rfl
      have table : final.recordings = db.recordings ++
          [⟨id, mark.row.eventId, some last.row.eventId⟩] := by
        rw [final', endedRows, before, rows, List.map_append, old]
        simp
      refine ⟨?_, .closed id mark last ⟨probed, rest, rfl, early, own, marks,
        late, id, closes⟩ table⟩
      intro row member
      rw [table, List.mem_append, List.mem_singleton] at member
      rw [final', endedSeq, before, seq]
      rcases member with member | rfl
      · have bound := numbered row member
        omega
      · exact le_refl _

end Chain

end Process

section History

variable {ok : ProcessConfig → Process → ProcessLabel → Prop} {db : Db}
variable {runs : List (List ProcessSeen)}

theorem opened_recordings (parseValue : String → Option Json.Value)
    (faults : FaultPlan) (db : Db) :
    (Process.opened parseValue faults db).recordings = db.recordings ∧
      (Process.opened parseValue faults db).recordingSeq = db.recordingSeq ∧
      (Process.opened parseValue faults db).eventSeq = db.eventSeq := by
  rcases opened_cases parseValue faults db with same | rebuilt
  · rw [same]
    exact ⟨rfl, rfl, rfl⟩
  · obtain ⟨_, eventSeq, recordings, recordingSeq, _⟩ :=
      rebuiltSessions_spec parseValue db.selectDistinctSessionsFromEvents 0 db
    rw [rebuilt]
    exact ⟨recordings, recordingSeq, eventSeq⟩

/-- The closed windows are those of the runs that have ended. -/
structure Windows (db : Db) (runs : List (List ProcessSeen)) : Prop where
  numbered : Process.Numbered db
  rows : ∀ row ∈ db.recordings, ∀ ended, row.endedEventId = some ended →
    ∃ seen ∈ runs, ∃ mark last,
      Process.Closes (Process.written seen) mark last ∧
        row.startedEventId = mark.row.eventId ∧ ended = last.row.eventId
  closed : ∀ seen ∈ runs, Process.Ended (Process.written seen) →
    ∃ mark last, Process.Closes (Process.written seen) mark last ∧
      ∃ row ∈ db.recordings, row.startedEventId = mark.row.eventId ∧
        row.endedEventId = some last.row.eventId

theorem History.windows (history : History ok db runs) : Windows db runs := by
  induction history with
  | empty => exact ⟨by simp [Process.Numbered, Db.empty], by simp [Db.empty],
      by simp⟩
  | @run config faults db runs final seen before ran induction =>
      have wellFormed := before.reached.wellFormed
      obtain ⟨recordings, recordingSeq, _⟩ :=
        opened_recordings config.serde.parse faults db
      have shape := (Process.marking_of_run wellFormed ran).shape
        (Process.bracketing_of_run wellFormed ran) (Process.sound_of_boot ran)
      have numbered : Process.Numbered
          (Process.opened config.serde.parse faults db) := by
        rw [Process.Numbered, recordings, recordingSeq]
        exact induction.numbered
      obtain ⟨numbered, adds⟩ := shape.adds numbered
        (Process.ledger_of_boot ran wellFormed).chained
      cases adds with
      | unclosed fresh rows unended running =>
          refine ⟨numbered, ?_, ?_⟩
          · intro row member ended closed
            rw [rows, recordings, List.mem_append] at member
            rcases member with member | member
            · obtain ⟨other, inside, closes⟩ :=
                induction.rows row member ended closed
              exact ⟨other, List.mem_append_left _ inside, closes⟩
            · rw [unended row member] at closed
              cases closed
          · intro other member ended
            rcases List.mem_append.mp member with member | member
            · obtain ⟨mark, last, closes, row, inside, named⟩ :=
                induction.closed other member ended
              refine ⟨mark, last, closes, row, ?_, named⟩
              rw [rows, recordings]
              exact List.mem_append_left _ inside
            · rw [List.mem_singleton.mp member] at ended
              exact absurd ended running
      | closed id mark last closes rows =>
          refine ⟨numbered, ?_, ?_⟩
          · intro row member ended closed
            rw [rows, recordings, List.mem_append, List.mem_singleton] at member
            rcases member with member | rfl
            · obtain ⟨other, inside, closes⟩ :=
                induction.rows row member ended closed
              exact ⟨other, List.mem_append_left _ inside, closes⟩
            · cases closed
              exact ⟨seen, by simp, mark, last, closes, rfl, rfl⟩
          · intro other member ended
            rcases List.mem_append.mp member with member | member
            · obtain ⟨mark, last, closes, row, inside, named⟩ :=
                induction.closed other member ended
              refine ⟨mark, last, closes, row, ?_, named⟩
              rw [rows, recordings]
              exact List.mem_append_left _ inside
            · rw [List.mem_singleton.mp member]
              refine ⟨mark, last, closes,
                ⟨id, mark.row.eventId, some last.row.eventId⟩, ?_, rfl, rfl⟩
              rw [rows]
              exact List.mem_append_right _ (List.mem_singleton_self _)

theorem History.positive (history : History ok db runs) :
    0 ≤ db.eventSeq ∧ ∀ commit ∈ committed runs, 0 < commit.row.eventId := by
  induction history with
  | empty => exact ⟨le_refl _, by simp [committed]⟩
  | @run config faults db runs final seen before ran induction =>
      obtain ⟨_, _, same⟩ := opened_recordings config.serde.parse faults db
      obtain ⟨positive, earlier⟩ := induction
      obtain ⟨grows, later⟩ :=
        (Process.ledger_of_boot ran before.reached.wellFormed).chained.eventSeq
      have start : (System.initial (Process.opened config.serde.parse faults db)
          []).store.db.eventSeq = db.eventSeq := same
      rw [start] at grows later
      refine ⟨by omega, ?_⟩
      intro commit member
      rw [committed_snoc, List.mem_append] at member
      rcases member with member | member
      · exact earlier commit member
      · have above := later commit member
        omega

/-- The start-up probe only ends sessions that the log knows already. -/
theorem History.probed_late (history : History ok db runs) :
    ∀ seen ∈ runs, ∀ commit ∈ Process.written seen,
      commit.owner = Process.startupProbe →
      ∃ row ∈ db.events, row.key = commit.key ∧
        row.eventId < commit.row.eventId := by
  induction history with
  | empty => simp
  | @run config faults db runs final seen before ran induction =>
      have wellFormed := before.reached.wellFormed
      have chained := (Process.ledger_of_boot ran wellFormed).chained
      intro other member commit inside own
      rcases List.mem_append.mp member with member | member
      · obtain ⟨row, inside, key, earlier⟩ :=
          induction other member commit inside own
        refine ⟨row, ?_, key, earlier⟩
        rw [chained.events]
        apply List.mem_append_left
        rw [← (rebuildMissingProjections_events faults : _ = db.events)] at inside
        exact inside
      · rw [List.mem_singleton.mp member] at inside
        obtain ⟨envelope, precondition, asked⟩ :=
          (Process.marking_of_run wellFormed ran).probes commit inside own
        obtain ⟨first, second, whole⟩ := List.append_of_mem inside
        have split : Chained (Process.opened config.serde.parse faults db)
            (first ++ commit :: second) final.system.store.db := whole ▸ chained
        obtain ⟨middle, left, rfl, ⟨result, outcome⟩, _, right⟩ := split.split
        have stands := left.wellFormed
          (rebuildMissingProjections_wellFormed faults wellFormed)
        rw [asked] at outcome
        simp only [WriteRequest.outcome] at outcome
        split at outcome
        · rename_i admits
          obtain ⟨state, stored⟩ : ∃ state,
              commit.before.stored envelope.key = some state := by
            cases stored : commit.before.stored envelope.key with
            | none =>
                rw [stored] at admits
                cases admits
            | some state => exact ⟨state, rfl⟩
          obtain ⟨row, found, named, _⟩ := stored_row stored
          obtain ⟨event, present, key⟩ := stands.sourced row found
          have grows : ∃ later, final.system.store.db.events =
              commit.before.events ++ later := by
            refine ⟨(commit :: second).map Commit.row, ?_⟩
            rw [chained.events, left.events]
            have rows := congrArg (List.map Commit.row) whole
            rw [List.map_append] at rows
            exact (congrArg _ rows).trans (List.append_assoc _ _ _).symm
          obtain ⟨later, grows⟩ := grows
          refine ⟨event, grows ▸ List.mem_append_left _ present, ?_, ?_⟩
          · rw [key, named, Commit.key, asked]
            rfl
          · have bound := stands.within event present
            have id : commit.row.eventId = commit.before.eventSeq + 1 := rfl
            omega
        · cases outcome

/-- No user's event is older. -/
def Oldest (runs : List (List ProcessSeen)) (event : Event) : Prop :=
  event ∈ recorded runs ∧ event.source ≠ "__daemon__" ∧
    ∀ other ∈ recorded runs, other.source ≠ "__daemon__" →
      event.eventId ≤ other.eventId

theorem History.mem_events (history : History ok db runs) {event : Event}
    (member : event ∈ recorded runs) : eventRow event ∈ db.events := by
  obtain ⟨commit, written, emits⟩ := List.mem_filterMap.mp member
  rw [history.events, ← Commit.row_event emits]
  exact List.mem_map_of_mem written

theorem History.recorded_of_row (history : History ok db runs)
    {row : Db.EventRow} (member : row ∈ db.events)
    (user : row.source ≠ "__daemon__") :
    ∃ event ∈ recorded runs, row = eventRow event := by
  rw [history.events] at member
  obtain ⟨commit, written, rfl⟩ := List.mem_map.mp member
  obtain ⟨event, emits⟩ := emits_of_user user
  exact ⟨event, List.mem_filterMap.mpr ⟨commit, written, emits⟩,
    Commit.row_event emits⟩

theorem History.selectMinEventId_oldest (history : History ok db runs)
    {event : Event} (oldest : Oldest runs event) :
    db.selectMinEventId = some event.eventId := by
  obtain ⟨member, user, least⟩ := oldest
  have inside : eventRow event ∈
      db.events.filter (·.source ≠ "__daemon__") :=
    List.mem_filter.mpr ⟨history.mem_events member, decide_eq_true user⟩
  have ascending := history.reached.wellFormed.ascending.filter
    (·.source ≠ "__daemon__")
  unfold Db.selectMinEventId
  cases rows : db.events.filter (·.source ≠ "__daemon__") with
  | nil =>
      rw [rows] at inside
      cases inside
  | cons first rest =>
      have own : first ∈ db.events.filter (·.source ≠ "__daemon__") := by
        rw [rows]
        exact List.mem_cons_self
      obtain ⟨stored, visible⟩ := List.mem_filter.mp own
      obtain ⟨other, recorded, rfl⟩ := history.recorded_of_row stored
        (of_decide_eq_true visible)
      have above := least other recorded (of_decide_eq_true visible)
      rw [rows] at inside ascending
      simp only [List.head?_cons, Option.map_some, Option.some.injEq]
      rcases List.mem_cons.mp inside with same | later
      · exact (congrArg (·.eventId) same).symm
      · have below : other.eventId < event.eventId :=
          (List.pairwise_cons.mp ascending).1 _ later
        omega

theorem History.selectMinEventId_none (history : History ok db runs)
    (none : ∀ event ∈ recorded runs, event.source = "__daemon__") :
    db.selectMinEventId = Option.none := by
  unfold Db.selectMinEventId
  rw [List.filter_eq_nil_iff.mpr]
  · rfl
  · intro row member user
    obtain ⟨event, inside, rfl⟩ :=
      history.recorded_of_row member (of_decide_eq_true user)
    exact absurd (none event inside) (of_decide_eq_true user)

/-- The commits of different runs do not overlap. -/
theorem History.apart (history : History ok db runs) :
    ∀ first ∈ runs, ∀ second ∈ runs, first ≠ second →
      (∀ one ∈ Process.written first, ∀ other ∈ Process.written second,
        one.row.eventId < other.row.eventId) ∨
      ∀ one ∈ Process.written first, ∀ other ∈ Process.written second,
        other.row.eventId < one.row.eventId := by
  have ascending := history.reached.wellFormed.ascending
  rw [history.events, List.pairwise_map, committed,
    List.pairwise_flatMap] at ascending
  -- a pair of runs stands in the order of the list, or the other way round
  exact fun _ member _ inside => List.Pairwise.forall_of_forall_of_flip
    (R := fun first second => first ≠ second →
      (∀ one ∈ Process.written first, ∀ other ∈ Process.written second,
        one.row.eventId < other.row.eventId) ∨
      ∀ one ∈ Process.written first, ∀ other ∈ Process.written second,
        other.row.eventId < one.row.eventId)
    (fun _ _ distinct => absurd rfl distinct)
    (ascending.2.imp fun before _ => .inl before)
    (ascending.2.imp fun before _ =>
      .inr fun one here other there => before other there one here)
    member inside

/-- A run that has ended has its events inside its window, but for those of the
start-up probe, which are never the oldest. -/
theorem Closes.inside {seen : List ProcessSeen} {mark last : Commit Nat}
    (history : History ok db runs) (member : seen ∈ runs)
    (closes : Process.Closes (Process.written seen) mark last)
    {commit : Commit Nat} (written : commit ∈ Process.written seen)
    {event : Event} (emits : commit.event? = some event)
    (oldest : Oldest runs event) :
    mark.row.eventId < event.eventId ∧ event.eventId < last.row.eventId := by
  have row := Commit.row_event emits
  have id : event.eventId = commit.row.eventId := by
    rw [row]
    rfl
  have ascending := history.reached.wellFormed.ascending
  rw [history.events, List.pairwise_map, committed,
    List.pairwise_flatMap] at ascending
  have run := ascending.1 seen member
  obtain ⟨probed, middle, whole, _, own, marks, _, other, ends⟩ := closes
  rw [whole] at run written
  simp only [List.append_assoc, List.cons_append, List.pairwise_append,
    List.pairwise_cons] at run
  obtain ⟨_, ⟨opens, _, _, shuts⟩, _⟩ := run
  simp only [List.append_assoc, List.cons_append, List.mem_append,
    List.mem_cons] at written
  rcases written with probe | rfl | inside | rfl | nothing
  · obtain ⟨_, user, least⟩ := oldest
    obtain ⟨older, present, key, earlier⟩ := history.probed_late seen member
      commit (by simp [whole, probe]) (own commit probe)
    have source : older.source = event.source := by
      have same := congrArg SessionKey.source key
      rw [show commit.key = commit.row.key from rfl, row] at same
      exact same
    rw [← source] at user
    obtain ⟨known, recorded, rfl⟩ := history.recorded_of_row present user
    have bound := least known recorded user
    rw [eventRow_eventId] at earlier
    omega
  · simp [Commit.event?, marks] at emits
  · rw [id]
    exact ⟨opens commit (List.mem_append_left _ inside),
      shuts commit inside last (List.mem_singleton_self _)⟩
  · simp [Commit.event?, ends] at emits
  · cases nothing

/-- What the two fields of a hello say about the runs. -/
structure HelloExact (db : Db) (runs : List (List ProcessSeen)) : Prop where
  nothing : (∀ event ∈ recorded runs, event.source = "__daemon__") →
    computeHelloDbFields db true = (i64Max, false)
  oldest : ∀ event, Oldest runs event →
    (computeHelloDbFields db true).1 = event.eventId
  clean : ∀ seen ∈ runs, ∀ commit ∈ Process.written seen, ∀ event,
    commit.event? = some event → Oldest runs event →
      ((computeHelloDbFields db true).2 = true ↔
        Process.Ended (Process.written seen))

/-- The oldest event that a hello names is the oldest, and the history begins
cleanly exactly if the run that wrote it has marked its end. -/
theorem hello_fields_exact (history : History ok db runs) :
    HelloExact db runs where
  nothing := by
    intro none
    have absent := history.selectMinEventId_none none
    simp only [computeHelloDbFields, if_true, Db.selectHelloDbFields, absent,
      Option.getD_none, Prod.mk.injEq, true_and]
    rw [List.any_eq_false]
    intro row member flagged
    simp only [Bool.and_eq_true, decide_eq_true_eq, Option.any_eq_true]
      at flagged
    obtain ⟨early, ended, closed, _⟩ := flagged
    obtain ⟨seen, inside, mark, last, ⟨probed, middle, whole, _⟩, started, _⟩ :=
      history.windows.rows row member ended closed
    have positive := history.positive.2 mark
      (List.mem_flatMap.mpr ⟨seen, inside, by simp [whole]⟩)
    omega
  oldest := by
    intro event oldest
    simp [computeHelloDbFields, Db.selectHelloDbFields,
      history.selectMinEventId_oldest oldest]
  clean := by
    intro seen member commit written event emits oldest
    have id : event.eventId = commit.row.eventId := by
      rw [Commit.row_event emits]
      rfl
    simp only [computeHelloDbFields, if_true, Db.selectHelloDbFields,
      history.selectMinEventId_oldest oldest, Option.getD_some,
      List.any_eq_true, Bool.and_eq_true, decide_eq_true_eq,
      Option.any_eq_true]
    constructor
    · rintro ⟨row, inside, early, ended, closed, late⟩
      obtain ⟨other, among, mark, last, closes, started, shut⟩ :=
        history.windows.rows row inside ended closed
      obtain ⟨probed, middle, whole, _, _, _, _, ends⟩ := closes
      by_cases same : other = seen
      · exact same ▸ ⟨last, by simp [whole], ends⟩
      · have opens : mark ∈ Process.written other := by simp [whole]
        have shuts : last ∈ Process.written other := by simp [whole]
        rcases history.apart other among seen member same with before | after
        · have below := before last shuts commit written
          omega
        · have above := after mark opens commit written
          omega
    · intro ended
      obtain ⟨mark, last, closes, row, inside, started, shut⟩ :=
        history.windows.closed seen member ended
      obtain ⟨opens, shuts⟩ :=
        Closes.inside history member closes written emits oldest
      exact ⟨row, inside, by omega, last.row.eventId, shut, by omega⟩

end History

/-- A run that ends in order, and one that is cut off. -/
theorem hello_fields_exact_drainAndExit :
    (∃ db runs, computeHelloDbFields db true = (2, true) ∧
      HelloExact db runs) ∧
    ∃ db runs, computeHelloDbFields db true = (2, false) ∧
      HelloExact db runs := by
  have ⟨final, seen, run, clean⟩ := Machine.exec_check
    ((Process.machine Process.simpleProcess).execMeets_true
      (Process.boot Process.simpleSerde.parse FaultPlan.none Db.empty)
      (Process.startUp ++ Process.twoAccepted ++ Process.drainAndExit))
    (fun result : Process × List ProcessSeen =>
      decide (computeHelloDbFields result.1.system.store.db true = (2, true)))
    (by decide)
  have ⟨cut, out, ran, unclean⟩ := Machine.exec_check
    ((Process.machine Process.simpleProcess).execMeets_true
      (Process.boot Process.simpleSerde.parse FaultPlan.none Db.empty)
      Process.leavesSession)
    (fun result : Process × List ProcessSeen =>
      decide (computeHelloDbFields result.1.system.store.db true = (2, false)))
    (by decide)
  have ended : History (fun _ _ _ => True) _ ([] ++ [seen]) := .run .empty run
  have crashed : History (fun _ _ _ => True) _ ([] ++ [out]) := .run .empty ran
  exact ⟨⟨_, _, of_decide_eq_true clean, hello_fields_exact ended⟩,
    _, _, of_decide_eq_true unclean, hello_fields_exact crashed⟩

end Bowerbird.Daemon
