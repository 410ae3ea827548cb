import Bowerbird.Api.Rest
import Bowerbird.Daemon.Delivery

namespace Bowerbird.Daemon

open Protocol Foundation Projection Api

/-! What a client that recovers at a `Dropped` frame from its last event id gets
back, and what it does not. -/

def dropped? : ConnSeen → Option DroppedFrame
  | .frame (.dropped report) _ => some report
  | _ => none

def isDropped (here : ConnSeen) : Bool :=
  (dropped? here).isSome

/-- The events of the active topics that a lag loses. -/
def lostCovered : ConnSeen → List Event
  | .lagged lost topics =>
      (lost.filter fun envelope => topics.any (·.matches envelope)).filterMap
        BroadcastEnvelope.event?
  | _ => []

/-- Lost to a lag, with no dropped frame since. -/
def Unreported (event : Event) (seen : List ConnSeen) : Prop :=
  Trace.Since (fun here => event ∈ lostCovered here)
    (fun here => isDropped here = false) seen

/-- The id of the last event frame. -/
def eventCursor (seen : List ConnSeen) : Option Int :=
  (Trace.latest eventFrame? seen).map (·.eventId)

/-- An event frame has followed a lag that lost an event of an active topic, and
no dropped frame has come since that lag. -/
def Overtakes (seen : List ConnSeen) : Prop :=
  ∃ early lag late, seen = early ++ lag :: late ∧ lostCovered lag ≠ [] ∧
    (∀ other ∈ late, isDropped other = false) ∧
    ∃ frame ∈ late, (eventFrame? frame).isSome

/-- The event is newer than the cursor, and the history of its session since the
cursor has it. -/
structure Recoverable (db : Db) (cursor : Int) (event : Event) : Prop where
  newer : cursor < event.eventId
  returned : event.source ≠ "__daemon__" →
    ∃ response, Events.list event.sessionId cursor (some db) = .ok response ∧
      event ∈ response.events

instance (event : Event) (seen : List ConnSeen) :
    Decidable (Unreported event seen) :=
  inferInstanceAs (Decidable (Trace.Since _ _ _))

theorem overtakes_cons {here : ConnSeen} {rest : List ConnSeen} :
    Overtakes (here :: rest) ↔
      Overtakes rest ∨ lostCovered here ≠ [] ∧
        (∀ other ∈ rest, isDropped other = false) ∧
        ∃ frame ∈ rest, (eventFrame? frame).isSome := by
  constructor
  · intro overtakes
    obtain ⟨early, lag, late, split, loses, silent, frame⟩ := overtakes
    cases early with
    | nil =>
        cases split
        exact .inr ⟨loses, silent, frame⟩
    | cons head early =>
        cases split
        exact .inl ⟨early, lag, late, rfl, loses, silent, frame⟩
  · intro overtakes
    rcases overtakes with ⟨early, lag, late, rfl, loses⟩ | loses
    · exact ⟨here :: early, lag, late, rfl, loses⟩
    · exact ⟨[], here, rest, rfl, loses⟩

instance decidableOvertakes : (seen : List ConnSeen) → Decidable (Overtakes seen)
  | [] => .isFalse fun ⟨early, _, _, split, _⟩ => by simp at split
  | here :: rest =>
      have := decidableOvertakes rest
      decidable_of_iff _ overtakes_cons.symm

/-! Every event frame comes right after the dequeue of its event. -/

def Framed (past : List ConnSeen) (here : ConnSeen) : Prop :=
  ∀ event, eventFrame? here = some event →
    ∃ before topics, past = before ++ [.dequeued (.event event) topics]

section Framed

variable {view : View} {conn next : Conn} {label : ConnLabel}
variable {out : List ConnSeen}

theorem each_framed_silent (silent : ∀ here ∈ out, eventFrame? here = none)
    (seen : List ConnSeen) :
    Trace.Each (fun past => Framed (seen ++ past)) out := by
  intro early here late split event framed
  rw [silent here (by simp [split])] at framed
  cases framed

theorem moves_framed (moves : Conn.Moves view conn label next out)
    (seen : List ConnSeen) :
    Trace.Each (fun past => Framed (seen ++ past)) out := by
  cases moves with
  | @sent _ envelope =>
      refine Trace.each_cons.mpr ⟨fun event framed => ?_,
        Trace.each_cons.mpr ⟨fun event framed => ?_, Trace.each_nil⟩⟩
      · cases framed
      · cases envelope with
        | event own =>
            cases framed
            exact ⟨seen, conn.subscriptions, rfl⟩
        | state => cases framed
  | @lagged _ _ _ _ _ _ _ _ report =>
      refine each_framed_silent ?_ seen
      cases report <;> simp [Conn.droppedFrames, eventFrame?, ServerMessage.event?]
  | @drained _ _ drain =>
      refine each_framed_silent ?_ seen
      cases drain <;> simp [Conn.endDrain, eventFrame?]
  | ended _ reason =>
      refine each_framed_silent ?_ seen
      cases reason <;> simp [eventFrame?]
  | greeted | poked | drains | unsent | filtered | readClock | readSnapshot
    | emitted | unemitted | saidClose =>
      refine each_framed_silent ?_ seen
      simp [Conn.readSnapshot, eventFrame?, ServerMessage.event?]

theorem framed_of_run {config : WsConfig} {ok : World → WorldLabel → Prop}
    {db : Db} {hub : List BroadcastEnvelope} {clock : Nat} {final : World}
    {seen : List WorldSeen}
    (run : (World.machine config).Run ok (World.initial db hub clock) final
      seen) :
    Trace.Each Framed (connSeen seen) := by
  refine run.invariant (fun _ seen => Trace.Each Framed (connSeen seen))
    Trace.each_nil ?_
  intro middle next seen out label _ before _ taken
  rw [connSeen_append]
  refine before.append ?_
  cases World.step_moves taken with
  | conn _ moves =>
      rw [connSeen_conn]
      exact moves_framed moves _
  | begin _ _ _ | transact _ | finish _ =>
      rw [connSeen_store]
      exact Trace.each_nil
  | upgraded =>
      refine each_framed_silent ?_ _
      simp [connSeen, WorldSeen.conn?, eventFrame?]
  | clock | flagged => exact Trace.each_nil

end Framed

/-! The events that the receiver moves past ascend. -/

def takenEvents (seen : List ConnSeen) : List Event :=
  (taken seen).filterMap BroadcastEnvelope.event?

def EventsAscend (seen : List ConnSeen) : Prop :=
  (takenEvents seen).Pairwise fun first second => first.eventId < second.eventId

section Ascend

variable {seen early late : List ConnSeen} {here : ConnSeen}
variable {first second : Event}

@[simp] theorem takenEvents_append (seen later : List ConnSeen) :
    takenEvents (seen ++ later) = takenEvents seen ++ takenEvents later := by
  simp [takenEvents]

theorem EventsAscend.order (ascend : EventsAscend (early ++ late))
    (before : first ∈ takenEvents early) (after : second ∈ takenEvents late) :
    first.eventId < second.eventId := by
  rw [EventsAscend, takenEvents_append, List.pairwise_append] at ascend
  exact ascend.2.2 first before second after

theorem lostCovered_taken (lost : first ∈ lostCovered here) :
    first ∈ takenEvents [here] := by
  cases here with
  | lagged envelopes topics =>
      obtain ⟨envelope, member, own⟩ := List.mem_filterMap.mp lost
      refine List.mem_filterMap.mpr ⟨envelope, ?_, own⟩
      simpa [taken, takenBy] using (List.mem_filter.mp member).1
  | upgraded | frame | dequeued | drained | subscribed | unsubscribed
    | wsClose => cases lost

theorem framed_taken (each : Trace.Each Framed seen)
    (split : seen = early ++ here :: late) (framed : eventFrame? here = some first) :
    first ∈ takenEvents early := by
  obtain ⟨before, topics, rfl⟩ := each early here late split first framed
  rw [takenEvents_append]
  exact List.mem_append_right _ (by simp [takenEvents, taken, takenBy,
    BroadcastEnvelope.event?])

/-- The dequeue of a frame after a lag comes after that lag too. -/
theorem framed_taken_after {lag : ConnSeen} {middle : List ConnSeen}
    (each : Trace.Each Framed seen)
    (split : seen = early ++ lag :: (middle ++ here :: late))
    (loses : lostCovered lag ≠ []) (framed : eventFrame? here = some first) :
    first ∈ takenEvents middle := by
  obtain ⟨before, topics, past⟩ := each (early ++ lag :: middle) here late
    (by rw [split]; simp) first framed
  rcases List.eq_nil_or_concat middle with rfl | ⟨front, last, rfl⟩
  · have same := (List.append_inj' past rfl).2
    cases same
    exact absurd rfl loses
  · rw [List.concat_eq_append] at past ⊢
    rw [← List.cons_append, ← List.append_assoc] at past
    have same := (List.append_inj' past rfl).2
    cases same
    rw [takenEvents_append]
    exact List.mem_append_right _ (by simp [takenEvents, taken, takenBy,
      BroadcastEnvelope.event?])

/-- The cursor is behind whatever was lost after the last event frame. -/
theorem newer_of_not_overtakes (each : Trace.Each Framed (early ++ late))
    (ascend : EventsAscend (early ++ late)) (kept : ¬ Overtakes early)
    (unreported : Unreported first early) {cursor : Int}
    (last : eventCursor early = some cursor) : cursor < first.eventId := by
  obtain ⟨front, lag, back, rfl, lost, silent⟩ := unreported
  obtain ⟨event, found, rfl⟩ := Option.map_eq_some_iff.mp last
  have frameless : ∀ other ∈ lag :: back, eventFrame? other = none := by
    intro other member
    rcases List.mem_cons.mp member with rfl | member
    · cases other with
      | lagged => rfl
      | upgraded | frame | dequeued | drained | subscribed | unsubscribed
        | wsClose => cases lost
    · by_contra framed
      exact kept ⟨front, lag, back, rfl, List.ne_nil_of_mem lost, silent,
        other, member, Option.isSome_iff_ne_none.mpr framed⟩
  rw [Trace.latest_append_none frameless] at found
  obtain ⟨before, here, after, rfl, framed, _⟩ := Trace.latest_split found
  have split : before ++ here :: after ++ lag :: back ++ late =
      before ++ here :: (after ++ lag :: (back ++ late)) := by simp
  have shown : event ∈ takenEvents before := framed_taken each split framed
  have inside : event ∈ takenEvents (before ++ here :: after) := by
    rw [takenEvents_append]
    exact List.mem_append_left _ shown
  rw [List.append_assoc] at ascend
  refine ascend.order inside ?_
  rw [List.cons_append, ← List.singleton_append, takenEvents_append]
  exact List.mem_append_left _ (lostCovered_taken lost)

/-- An event frame after the lag moves the cursor past what the lag lost. -/
theorem older_of_overtakes (each : Trace.Each Framed (early ++ late))
    (ascend : EventsAscend (early ++ late)) (overtakes : Overtakes early) :
    ∃ event cursor, Unreported event early ∧ eventCursor early = some cursor ∧
      event.eventId < cursor := by
  obtain ⟨front, lag, back, rfl, loses, silent, frame, member, framed⟩ :=
    overtakes
  obtain ⟨event, lost⟩ := List.exists_mem_of_ne_nil _ loses
  have some_frame : ∃ newest, Trace.latest eventFrame? back = some newest := by
    obtain ⟨shown, own⟩ := Option.isSome_iff_exists.mp framed
    have inside : shown ∈ back.filterMap eventFrame? :=
      List.mem_filterMap.mpr ⟨frame, member, own⟩
    exact ⟨_, List.getLast?_eq_some_getLast (List.ne_nil_of_mem inside)⟩
  obtain ⟨newest, found⟩ := some_frame
  obtain ⟨middle, here, rest, rfl, own, _⟩ := Trace.latest_split found
  refine ⟨event, newest.eventId, ⟨front, lag, _, rfl, lost, silent⟩, ?_, ?_⟩
  · rw [eventCursor, ← List.singleton_append, Trace.latest_append,
      Trace.latest_append, found]
    rfl
  · have split : front ++ lag :: (middle ++ here :: rest) ++ late =
        front ++ lag :: (middle ++ here :: (rest ++ late)) := by simp
    have shown : newest ∈ takenEvents middle :=
      framed_taken_after each split loses own
    have order : EventsAscend
        ((front ++ [lag]) ++ (middle ++ here :: rest ++ late)) := by
      simpa using ascend
    refine order.order ?_ ?_
    · rw [takenEvents_append]
      exact List.mem_append_right _ (lostCovered_taken lost)
    · rw [List.append_assoc, takenEvents_append]
      exact List.mem_append_left _ shown

end Ascend

/-! Whatever is published is in the history of its session. -/

section History

variable {config : WsConfig} {ok : World → WorldLabel → Prop} {db : Db}
variable {hub : List BroadcastEnvelope} {clock : Nat} {final : World}
variable {seen : List WorldSeen} {event : Event}

theorem eventsAscend_of_run
    (run : (World.machine config).Run ok (World.initial db hub clock) final
      seen)
    (wellFormed : db.WellFormed) : EventsAscend (connSeen seen) := by
  obtain ⟨unread, arrived⟩ := (connected_of_run run).unread
  have whole := arrivals_ascending wellFormed run
  rw [arrived, List.filterMap_append, List.pairwise_append] at whole
  exact whole.1

theorem published_of_taken
    (run : (World.machine config).Run ok (World.initial db hub clock) final
      seen)
    (taken : event ∈ takenEvents (connSeen seen)) :
    .event event ∈ published (storeSeen seen) := by
  obtain ⟨unread, arrived⟩ := (connected_of_run run).unread
  obtain ⟨envelope, member, own⟩ := List.mem_filterMap.mp taken
  cases envelope with
  | event same =>
      cases own
      apply (arrivals_suffix seen).sublist.subset
      rw [arrived]
      exact List.mem_append_left _ member
  | state => cases own

theorem published_listed
    (run : (World.machine config).Run ok (World.initial db hub clock) final
      seen)
    (wellFormed : db.WellFormed)
    (published : .event event ∈ published (storeSeen seen))
    (user : event.source ≠ "__daemon__") :
    Events.Listed final.store.db event ∧
      final.store.db.selectSessionExistsById event.sessionId = true :=
  Events.listed_of_published (World.ledger run wellFormed rfl)
    (List.mem_append_left _ published) user

end History

/-- A lost event newer than the cursor can be fetched. -/
theorem recoverable_of_newer {db : Db} {cursor : Int} {event : Event}
    (newer : cursor < event.eventId)
    (listed : event.source ≠ "__daemon__" → Events.Listed db event ∧
      db.selectSessionExistsById event.sessionId = true) :
    Recoverable db cursor event where
  newer := newer
  returned := by
    intro user
    obtain ⟨inside, present⟩ := listed user
    obtain ⟨response, answered, events⟩ := Events.list_found _ present
    refine ⟨response, answered, ?_⟩
    rw [events]
    exact Events.mem_events.mpr ⟨inside, rfl, newer⟩

/-- At a dropped frame, every event lost since the one before can be recovered
from the cursor, if and only if no event frame has overtaken a loss. -/
theorem dropped_recoverable_iff {config : WsConfig}
    {ok : World → WorldLabel → Prop} {db : Db} {hub : List BroadcastEnvelope}
    {clock : Nat} {final : World} {seen : List WorldSeen}
    (run : (World.machine config).Run ok (World.initial db hub clock) final
      seen)
    (wellFormed : db.WellFormed) {early late : List ConnSeen}
    {report : DroppedFrame}
    (split : connSeen seen = early ++ .frame (.dropped report) .control :: late) :
    (∀ event, Unreported event early →
      ∀ cursor ∈ eventCursor early, Recoverable final.store.db cursor event) ↔
        ¬ Overtakes early := by
  have each := framed_of_run run
  have ascend := eventsAscend_of_run run wellFormed
  rw [split] at each ascend
  constructor
  · intro recovers overtakes
    obtain ⟨event, cursor, unreported, last, older⟩ :=
      older_of_overtakes each ascend overtakes
    exact absurd (recovers event unreported cursor last).newer (by omega)
  · intro kept event unreported cursor last
    refine recoverable_of_newer
      (newer_of_not_overtakes each ascend kept unreported last) fun user => ?_
    refine published_listed run wellFormed (published_of_taken run ?_) user
    obtain ⟨front, lag, back, rfl, lost, _⟩ := unreported
    rw [split, ← List.singleton_append, takenEvents_append,
      ← List.singleton_append, takenEvents_append, takenEvents_append]
    exact List.mem_append_left _ (List.mem_append_right _
      (List.mem_append_left _ (lostCovered_taken lost)))

/-- Enough writes beside a receiver that holds two envelopes: one lag loses event
1 and is reported, one within the window loses event 4, and a third one after the
window is reported again.  Between them the client is served or not. -/
def threeLags (served : Bool) : List WorldLabel :=
  let write := writing .ingest (System.bareHook "a" .preToolUse none)
  let burst := write ++ write ++ write
  let receive (now : Nat) := WorldLabel.conn (.receive now true)
  writing .ingest (System.bareHook "a" .userPromptSubmit none) ++
    opening "events.*" [] ++ burst ++ [receive 100] ++
    (if served then [receive 100, receive 100] else []) ++
    burst ++ [receive 105] ++
    (if served then [receive 105, receive 105] else []) ++
    burst ++ [receive 120]

/-- The second report comes with a cursor past an event lost before it. -/
theorem dropped_cursor_past_lost_event :
    ∃ (final : World) (seen : List WorldSeen) (early late : List ConnSeen)
      (report : DroppedFrame) (event : Event) (cursor : Int),
      (World.machine smallConfig).Run (fun _ _ => True)
        (World.initial Db.empty [] 0) final seen ∧
      connSeen seen = early ++ .frame (.dropped report) .control :: late ∧
      Unreported event early ∧ eventCursor early = some cursor ∧
      event.eventId < cursor ∧ ¬ Recoverable final.store.db cursor event := by
  have ⟨final, seen, run, checked⟩ := Machine.exec_check
    (Machine.execMeets_true (World.machine smallConfig)
      (World.initial Db.empty [] 0) (threeLags true))
    (fun result : World × List WorldSeen =>
      decide (∃ report ∈ (connSeen result.2).filterMap dropped?,
        (connSeen result.2).getLast? =
            some (.frame (.dropped report) .control) ∧
          ∃ cursor ∈ eventCursor (connSeen result.2).dropLast,
            ∃ event ∈ takenEvents (connSeen result.2),
              Unreported event (connSeen result.2).dropLast ∧
                event.eventId < cursor))
    (by decide)
  obtain ⟨report, _, last, cursor, read, event, _, unreported, older⟩ :=
    of_decide_eq_true checked
  obtain ⟨early, split⟩ := List.getLast?_eq_some_iff.mp last
  rw [split, List.dropLast_concat] at read unreported
  exact ⟨final, seen, early, [], report, event, cursor, run, split, unreported,
    read, older, fun recovers => absurd recovers.newer (not_lt_of_gt older)⟩

/-- An event is delivered, the next one is lost and reported at once. -/
def lagReported : List WorldLabel :=
  let write := writing .ingest (System.bareHook "a" .preToolUse none)
  opening "events.*" [] ++ write ++
    [.conn (.receive 0 true), .conn (.receive 0 true)] ++
    write ++ write ++ write ++ [.conn (.receive 100 true)]

theorem dropped_recoverable_iff_lagReported :
    ∃ (final : World) (early : List ConnSeen) (event : Event) (cursor : Int),
      Unreported event early ∧ eventCursor early = some cursor ∧
      Recoverable final.store.db cursor event := by
  have ⟨final, seen, run, checked⟩ := Machine.exec_check
    (Machine.execMeets_true (World.machine smallConfig)
      (World.initial Db.empty [] 0) lagReported)
    (fun result : World × List WorldSeen =>
      decide (∃ report ∈ (connSeen result.2).filterMap dropped?,
        (connSeen result.2).getLast? =
            some (.frame (.dropped report) .control) ∧
          ¬ Overtakes (connSeen result.2).dropLast ∧
          ∃ cursor ∈ eventCursor (connSeen result.2).dropLast,
            ∃ event ∈ takenEvents (connSeen result.2),
              Unreported event (connSeen result.2).dropLast))
    (by decide)
  obtain ⟨report, _, last, kept, cursor, read, event, _, unreported⟩ :=
    of_decide_eq_true checked
  obtain ⟨early, split⟩ := List.getLast?_eq_some_iff.mp last
  rw [split, List.dropLast_concat] at kept read unreported
  exact ⟨final, early, event, cursor, unreported, read,
    (dropped_recoverable_iff run Db.wellFormed_empty split).mpr kept event
      unreported cursor read⟩

end Bowerbird.Daemon
