import Bowerbird.Daemon.Coalescing
import Mathlib.Data.Int.ConditionallyCompleteOrder
import Mathlib.Data.Int.Interval

namespace Bowerbird.Daemon

open Protocol Foundation Projection Api

/-! When the last id of a dropped frame bounds the ids of the lost events.  The
range of a frame has one id for every envelope; the ids that it skips over and
the envelopes without an id of their own decide. -/

namespace Pending

def lostIds (pending : Pending) : List Int :=
  (pending.lost.filterMap BroadcastEnvelope.event?).map (·.eventId)

/-- The id before the range: that of the last event that had been delivered. -/
def floor (pending : Pending) : Int :=
  (pending.opened.getD none).getD (-1)

/-- The ids of the range up to an event that no lag has lost. -/
def unlost (pending : Pending) (event : Event) : Finset Int :=
  (@Finset.Ioc Int _ Int.instLocallyFiniteOrder pending.floor
    event.eventId).filter (· ∉ pending.lostIds)

/-- The lost envelopes that are no events up to the given one. -/
def spare (pending : Pending) (event : Event) : List BroadcastEnvelope :=
  pending.lost.filter fun envelope =>
    envelope.event?.all (event.eventId < ·.eventId)

end Pending

section Count

variable {floor : Int} {ids : List Int}

/-- The ids of an interval are listed or not. -/
theorem interval_split (upper : Int) (nodup : ids.Nodup)
    (above : ∀ id ∈ ids, floor < id) :
    (upper - floor).toNat =
      ((Finset.Ioc floor upper).filter (· ∉ ids)).card +
        (ids.filter (· ≤ upper)).length := by
  have listed : (Finset.Ioc floor upper).filter (· ∈ ids) =
      (ids.filter (· ≤ upper)).toFinset := by
    ext id
    simp only [Finset.mem_filter, Finset.mem_Ioc, List.mem_toFinset,
      List.mem_filter, decide_eq_true_eq]
    constructor
    · rintro ⟨⟨_, below⟩, member⟩
      exact ⟨member, below⟩
    · rintro ⟨member, below⟩
      exact ⟨⟨above id member, below⟩, member⟩
  rw [← Int.card_Ioc, ← Finset.card_filter_add_card_filter_not (p := (· ∈ ids)),
    listed, List.toFinset_card_of_nodup (nodup.filter _), Nat.add_comm]

theorem spare_split (lost : List BroadcastEnvelope) (upper : Int) :
    lost.length =
      (lost.filter fun envelope =>
        envelope.event?.all (upper < ·.eventId)).length +
      (((lost.filterMap BroadcastEnvelope.event?).map (·.eventId)).filter
        (· ≤ upper)).length := by
  induction lost with
  | nil => rfl
  | cons envelope rest induction =>
      rw [List.length_cons, induction]
      cases envelope with
      | state =>
          simp [BroadcastEnvelope.event?, List.filterMap_cons,
            Nat.add_right_comm]
      | event event =>
          by_cases later : upper < event.eventId
          · simp [BroadcastEnvelope.event?, later, not_le_of_gt later,
              Nat.add_right_comm]
          · simp [BroadcastEnvelope.event?, later, le_of_not_gt later,
              Nat.add_assoc]

end Count

section Bound

variable {config : WsConfig} {ok : World → WorldLabel → Prop} {db : Db}
variable {hub : List BroadcastEnvelope} {clock : Nat} {final : World}
variable {seen : List WorldSeen} {early late : List ConnSeen} {event : Event}
variable {reach : ProcessConfig → Process → ProcessLabel → Prop}

theorem lost_of_unreported (unreported : Unreported event early) :
    .event event ∈ (pendingOf early).lost := by
  obtain ⟨front, lag, back, rfl, lost, silent⟩ := unreported
  refine mem_pendingOf_lost.mpr ⟨front, lag, back, rfl, ?_, silent⟩
  cases lag with
  | lagged envelopes topics =>
      obtain ⟨envelope, member, own⟩ := List.mem_filterMap.mp lost
      obtain ⟨inside, selected⟩ := List.mem_filter.mp member
      obtain ⟨topic, active, _⟩ := List.any_eq_true.mp selected
      cases envelope with
      | event same =>
          cases own
          rw [lagLost, if_neg (List.ne_nil_of_mem active)]
          exact inside
      | state => cases own
  | upgraded | frame | dequeued | drained | subscribed | unsubscribed
    | wsClose => cases lost

/-- Event ids are 64-bit integers, as the last one that was given out. -/
theorem taken_bounded
    (run : (World.machine config).Run ok (World.initial db hub clock) final
      seen)
    (wellFormed : db.WellFormed) (taken : event ∈ takenEvents (connSeen seen)) :
    event.eventId ≤ final.store.db.eventSeq := by
  have ledger := World.ledger run wellFormed rfl
  obtain ⟨commit, member, emits⟩ := ledger.announced_event
    (List.mem_append_left _ (published_of_taken run taken))
  have row := Commit.row_event emits
  have inside : eventRow event ∈ final.store.db.events := by
    rw [ledger.chained.events, ← row]
    exact List.mem_append_right _ (List.mem_map_of_mem member)
  exact (ledger.chained.wellFormed wellFormed).within _ inside

theorem reports_of_run
    (run : (World.machine config).Run ok (World.initial db hub clock) final
      seen) {report : DroppedFrame}
    (split : connSeen seen = early ++ .frame (.dropped report) .control :: late) :
    (pendingOf early).Reports report := by
  obtain ⟨trace, labelled, rfl⟩ := run.withLabels
  exact (coalescing_of_run labelled).reported early _ late split report rfl

/-- The ids of a ledger: distinct, after the floor, and positive. -/
theorem lostIds_nodup (ascend : EventsAscend early) :
    (pendingOf early).lostIds.Nodup := by
  have order := ascend.sublist ((lost_sublist early).filterMap
    BroadcastEnvelope.event?)
  exact List.Pairwise.map _ (fun _ _ less => less.ne) order

theorem floor_lt (each : Trace.Each Framed early) (ascend : EventsAscend early)
    (positive : ∀ event ∈ takenEvents early, 0 < event.eventId) :
    -1 ≤ (pendingOf early).floor ∧
      ∀ id ∈ (pendingOf early).lostIds, (pendingOf early).floor < id := by
  have own : ∀ id ∈ (pendingOf early).lostIds,
      ∃ event, .event event ∈ (pendingOf early).lost ∧ event.eventId = id := by
    intro id member
    obtain ⟨event, listed, rfl⟩ := List.mem_map.mp member
    obtain ⟨envelope, inside, same⟩ := List.mem_filterMap.mp listed
    cases envelope with
    | event other =>
        cases same
        exact ⟨event, inside, rfl⟩
    | state => cases same
  rw [Pending.floor]
  cases was : (pendingOf early).opened.getD none with
  | none =>
      refine ⟨le_refl _, fun id member => ?_⟩
      obtain ⟨event, lost, rfl⟩ := own id member
      exact lt_trans (by decide) (positive event (taken_of_lost lost))
  | some cursor =>
      have opened : (pendingOf early).opened = some (some cursor) := by
        cases kept : (pendingOf early).opened with
        | none =>
            rw [kept] at was
            cases was
        | some captured =>
            rw [kept] at was
            exact congrArg some was
      obtain ⟨⟨shown, inside, rfl⟩, later⟩ :=
        (pendingOf_ahead each ascend).2 cursor opened
      refine ⟨(lt_trans (by decide) (positive shown inside)).le, ?_⟩
      intro id member
      obtain ⟨event, lost, rfl⟩ := own id member
      exact later event lost

/-- The last id of a frame, from the floor of its ledger. -/
theorem last_iff {report : DroppedFrame} (closes : (pendingOf early).Reports report)
    (low : -1 ≤ (pendingOf early).floor)
    (high : (pendingOf early).floor < event.eventId)
    (bounded : event.eventId ≤ i64Max)
    (loses : (pendingOf early).lost ≠ []) :
    event.eventId ≤ report.lastDroppedEventId ↔
      event.eventId - (pendingOf early).floor ≤ (pendingOf early).lost.length := by
  have filled := List.length_pos_of_ne_nil loses
  obtain ⟨cursor, opened, first⟩ := closes.opened
  have start : report.firstDroppedEventId = (pendingOf early).floor + 1 := by
    rw [first, Pending.floor, opened]
    rw [Pending.floor, opened] at low high
    cases cursor with
    | none => rfl
    | some cursor =>
        simp only [Option.getD_some] at low high
        have negative : i64Min ≤ 0 := by decide
        simp only [cursorToFirst, i64SaturatingAdd, Option.getD_some]
        omega
  have most : (u64Max : Int) = 2 * i64Max + 1 := by decide
  have least : i64Min ≤ 0 := by decide
  rw [closes.last, closes.count, start, i64SaturatingAdd]
  omega

theorem bound_iff {report : DroppedFrame}
    (run : (World.machine config).Run ok (World.initial db hub clock) final
      seen)
    (reached : Reached reach db) (small : final.store.db.eventSeq ≤ i64Max)
    (split : connSeen seen = early ++ .frame (.dropped report) .control :: late)
    (lost : .event event ∈ (pendingOf early).lost) :
    event.eventId ≤ report.lastDroppedEventId ↔
      ((pendingOf early).unlost event).card ≤
        ((pendingOf early).spare event).length := by
  obtain ⟨each, ascend, positive⟩ := past_of_run reached run split
  obtain ⟨low, above⟩ := floor_lt each ascend positive
  have inside : event.eventId ∈ (pendingOf early).lostIds :=
    List.mem_map.mpr ⟨event, List.mem_filterMap.mpr ⟨_, lost, rfl⟩, rfl⟩
  have bounded : event.eventId ≤ final.store.db.eventSeq := by
    apply taken_bounded run reached.wellFormed
    rw [split, takenEvents_append]
    exact List.mem_append_left _ (taken_of_lost lost)
  have ids := interval_split event.eventId (lostIds_nodup ascend) above
  have envelopes := spare_split (pendingOf early).lost event.eventId
  have high := above _ inside
  rw [last_iff (reports_of_run run split) low high (bounded.trans small)
    (List.ne_nil_of_mem lost)]
  rw [Pending.unlost, Pending.spare]
  rw [← Pending.lostIds] at envelopes
  omega

end Bound

/-- A dropped frame's last id bounds the events of the active topics that were
lost since the frame before, if and only if the ids that its range skips over are
no more than the lost envelopes that they make way for. -/
theorem dropped_bound_iff {config : WsConfig}
    {ok : World → WorldLabel → Prop}
    {reach : ProcessConfig → Process → ProcessLabel → Prop} {db : Db}
    {hub : List BroadcastEnvelope} {clock : Nat} {final : World}
    {seen : List WorldSeen} (reached : Reached reach db)
    (run : (World.machine config).Run ok (World.initial db hub clock) final
      seen)
    (small : final.store.db.eventSeq ≤ i64Max) {early late : List ConnSeen}
    {report : DroppedFrame}
    (split : connSeen seen = early ++ .frame (.dropped report) .control :: late) :
    (∀ event, Unreported event early →
      event.eventId ≤ report.lastDroppedEventId) ↔
        ∀ event, Unreported event early →
          ((pendingOf early).unlost event).card ≤
            ((pendingOf early).spare event).length :=
  forall_congr' fun _ => imp_congr_right fun unreported =>
    bound_iff run reached small split (lost_of_unreported unreported)

theorem dropped_bound_iff_lagReported :
    ∃ (early : List ConnSeen) (report : DroppedFrame) (event : Event),
      Unreported event early ∧ event.eventId ≤ report.lastDroppedEventId := by
  have ⟨final, seen, run, checked⟩ := Machine.exec_check
    (Machine.execMeets_true (World.machine smallConfig)
      (World.initial Db.empty [] 0) lagReported)
    (fun result : World × List WorldSeen =>
      decide (result.1.store.db.eventSeq ≤ i64Max ∧
        ∃ report ∈ (connSeen result.2).filterMap dropped?,
          (connSeen result.2).getLast? =
              some (.frame (.dropped report) .control) ∧
            (∃ event ∈ takenEvents (connSeen result.2).dropLast,
              Unreported event (connSeen result.2).dropLast) ∧
            ∀ event ∈ takenEvents (connSeen result.2).dropLast,
              ((pendingOf (connSeen result.2).dropLast).unlost event).card ≤
                ((pendingOf (connSeen result.2).dropLast).spare event).length))
    (by decide)
  obtain ⟨small, report, _, last, ⟨event, _, unreported⟩, room⟩ :=
    of_decide_eq_true checked
  obtain ⟨early, split⟩ := List.getLast?_eq_some_iff.mp last
  rw [split, List.dropLast_concat] at unreported room
  have reached : Reached (fun _ _ _ => True) Db.empty := .empty
  refine ⟨early, report, event, unreported,
    (dropped_bound_iff reached run small split).mpr ?_ event unreported⟩
  intro other lost
  exact room other (taken_of_lost (lost_of_unreported lost))

/-- A client that comes late, to a log that has three events, and that lags
before its first one. -/
def lagBeforeFirst : List WorldLabel :=
  let write := writing .ingest (System.bareHook "a" .preToolUse none)
  let burst := write ++ write ++ write
  burst ++ opening "events.*" [] ++ burst ++ [.conn (.receive 100 true)]

/-- The range of a late client starts at zero, and ends before what it lost. -/
theorem dropped_frame_below_lost_event :
    ∃ (final : World) (seen : List WorldSeen) (early late : List ConnSeen)
      (report : DroppedFrame) (event : Event),
      (World.machine smallConfig).Run (fun _ _ => True)
        (World.initial Db.empty [] 0) final seen ∧
      connSeen seen = early ++ .frame (.dropped report) .control :: late ∧
      active early = [.eventsAll] ∧ Unreported event early ∧
      report.lastDroppedEventId < event.eventId := by
  have ⟨final, seen, run, checked⟩ := Machine.exec_check
    (Machine.execMeets_true (World.machine smallConfig)
      (World.initial Db.empty [] 0) lagBeforeFirst)
    (fun result : World × List WorldSeen =>
      decide (∃ report ∈ (connSeen result.2).filterMap dropped?,
        (connSeen result.2).getLast? =
            some (.frame (.dropped report) .control) ∧
          active (connSeen result.2).dropLast = [.eventsAll] ∧
          ∃ event ∈ takenEvents (connSeen result.2),
            Unreported event (connSeen result.2).dropLast ∧
              report.lastDroppedEventId < event.eventId))
    (by decide)
  obtain ⟨report, _, last, topics, event, _, unreported, below⟩ :=
    of_decide_eq_true checked
  obtain ⟨early, split⟩ := List.getLast?_eq_some_iff.mp last
  rw [split, List.dropLast_concat] at topics unreported
  exact ⟨final, seen, early, [], report, event, run, split, topics, unreported,
    below⟩

end Bowerbird.Daemon
