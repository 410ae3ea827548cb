import Bowerbird.Daemon.CleanHistory
import Bowerbird.Daemon.DroppedRecovery
import Mathlib.Algebra.Order.Floor.Div

namespace Bowerbird.Daemon

open Protocol Foundation Projection Api

/-! The lags of a connection, and the dropped frames that report them. -/

/-- The envelopes that a lag loses; without a subscription it loses none that
were promised. -/
def lagLost : ConnSeen → List BroadcastEnvelope
  | .lagged lost topics => if topics = [] then [] else lost
  | _ => []

def lostCount (seen : List ConnSeen) : Nat :=
  (seen.flatMap lagLost).length

def reportedCount (seen : List ConnSeen) : Nat :=
  ((seen.filterMap dropped?).map (·.count)).sum

/-- Lost to a lag, of an active topic or not, with no dropped frame since. -/
def LostSince (event : Event) (seen : List ConnSeen) : Prop :=
  Trace.Since (fun here => .event event ∈ lagLost here)
    (fun here => isDropped here = false) seen

/-- When a step sends a dropped frame, the reading of its clock. -/
def emittedAt? : WorldLabel × List WorldSeen → Option Nat
  | (.conn (.receive now _), out) =>
      if (connSeen out).any isDropped then some now else none
  | _ => none

/-- What the connection was seen to do in a labelled run. -/
def observed (trace : List (WorldLabel × List WorldSeen)) : List ConnSeen :=
  connSeen (trace.flatMap Prod.snd)

def emissions (trace : List (WorldLabel × List WorldSeen)) : List Nat :=
  trace.filterMap emittedAt?

/-- What the policy keeps, as seen at any moment of a connection. -/
structure Coalesces (config : WsConfig) (conn : Conn)
    (trace : List (WorldLabel × List WorldSeen)) : Prop where
  /-- Every lost envelope is counted in one frame or pending. -/
  counted : conn.phase ≠ .closed → lostCount (observed trace) ≤ u64Max →
    reportedCount (observed trace) + conn.pendingDropCount =
      lostCount (observed trace)
  /-- The next lag can always be put into a frame. -/
  accepted : conn.phase ≠ .closed → ∀ now n, 0 < n →
    ∀ count first last kept,
      coalesceDecision now conn.lastDroppedAt conn.pendingDropCount
        conn.pendingDroppedFirst conn.lastDeliveredEventId n
        config.coalesceWindow = (.emit count first last, kept) →
      ∃ frame, DroppedFrame.new count first last = .ok frame
  /-- A frame starts no later than what was lost since the one before. -/
  first : Trace.Each (fun past here => ∀ report, dropped? here = some report →
    ∀ event, LostSince event past →
      report.firstDroppedEventId ≤ event.eventId) (observed trace)
  cursor : conn.lastDeliveredEventId = eventCursor (observed trace)
  ascending : ((observed trace).filterMap eventFrame?).Pairwise
    fun first second => first.eventId < second.eventId
  paced : 0 < config.coalesceWindow → ∀ start length : Nat,
    ((emissions trace).filter
      fun now => start ≤ now ∧ now < start + length).length ≤
        length ⌈/⌉ config.coalesceWindow

/-! The ledger of the unreported lags. -/

structure Pending where
  cursor : Option Int
  /-- The cursor at the first of the lags. -/
  opened : Option (Option Int)
  lost : List BroadcastEnvelope

namespace Pending

def initial : Pending :=
  { cursor := none, opened := none, lost := [] }

def observe (pending : Pending) : ConnSeen → Pending
  | .frame (.event event) _ => { pending with cursor := some event.eventId }
  | .frame (.dropped _) _ => { pending with opened := none, lost := [] }
  | .lagged lost topics =>
      if topics = [] then pending
      else
        { pending with
          opened := pending.opened.or (some pending.cursor)
          lost := pending.lost ++ lost }
  | _ => pending

/-- What a dropped frame says of the ledger that it closes. -/
structure Reports (pending : Pending) (report : DroppedFrame) : Prop where
  opened : ∃ cursor, pending.opened = some cursor ∧
    report.firstDroppedEventId = cursorToFirst cursor
  count : report.count = min u64Max pending.lost.length
  last : report.lastDroppedEventId = i64SaturatingAdd
    report.firstDroppedEventId (min (report.count - 1 : Nat) i64Max)

end Pending

def pendingOf (seen : List ConnSeen) : Pending :=
  seen.foldl Pending.observe .initial

@[simp] theorem pendingOf_nil : pendingOf [] = .initial :=
  rfl

@[simp] theorem pendingOf_append (seen out : List ConnSeen) :
    pendingOf (seen ++ out) = out.foldl Pending.observe (pendingOf seen) := by
  simp [pendingOf]

/-- The connection's own fields agree with the ledger. -/
structure Tallied (conn : Conn) (pending : Pending) : Prop where
  cursor : conn.lastDeliveredEventId = pending.cursor
  opens : pending.opened = none ↔ pending.lost = []
  count : conn.phase ≠ .closed →
    conn.pendingDropCount = min u64Max pending.lost.length
  first : conn.phase ≠ .closed →
    conn.pendingDroppedFirst = pending.opened.map cursorToFirst

theorem cursorToFirst_le (cursor : Option Int) :
    cursorToFirst cursor ≤ i64Max := by
  cases cursor with
  | none => decide
  | some id =>
      have order : i64Min ≤ i64Max := by decide
      simp only [cursorToFirst, i64SaturatingAdd]
      omega

section Lag

variable {conn : Conn} {ledger : Pending} {lost : List BroadcastEnvelope}

theorem Tallied.first_le (tallied : Tallied conn ledger)
    (alive : conn.phase ≠ .closed) :
    conn.pendingDroppedFirst.getD (cursorToFirst conn.lastDeliveredEventId) ≤
      i64Max := by
  rw [tallied.first alive]
  cases ledger.opened with
  | none => exact cursorToFirst_le _
  | some cursor => exact cursorToFirst_le cursor

/-- A range of the policy is one: it does not end before it starts. -/
theorem range_ordered {first : Int} (bounded : first ≤ i64Max) (count : Nat) :
    first ≤ i64SaturatingAdd first (min (count - 1 : Nat) i64Max) := by
  have positive : (0 : Int) ≤ i64Max := by decide
  simp only [i64SaturatingAdd]
  omega

theorem observe_lagged {topics : List Topic} (active : topics ≠ []) :
    ledger.observe (.lagged lost topics) =
      { ledger with
        opened := ledger.opened.or (some ledger.cursor)
        lost := ledger.lost ++ lost } :=
  if_neg active

theorem saturated_length (left right : List BroadcastEnvelope) :
    u64SaturatingAdd (min u64Max left.length) right.length =
      min u64Max (left ++ right).length := by
  rw [u64SaturatingAdd, List.length_append]
  omega

/-- The suppressed lag opens the ledger, or finds it open. -/
theorem Tallied.captured (tallied : Tallied conn ledger)
    (alive : conn.phase ≠ .closed) :
    (if conn.pendingDropCount = 0 then
      some (cursorToFirst conn.lastDeliveredEventId)
    else conn.pendingDroppedFirst) =
      (ledger.opened.or (some ledger.cursor)).map cursorToFirst := by
  rw [tallied.count alive, tallied.first alive, tallied.cursor]
  cases opened : ledger.opened with
  | none =>
      rw [tallied.opens.mp opened]
      rfl
  | some cursor =>
      have filled : ledger.lost ≠ [] := by
        intro empty
        rw [tallied.opens.mpr empty] at opened
        cases opened
      have positive := List.length_pos_of_ne_nil filled
      have room : 0 < u64Max := by decide
      rw [if_neg (by omega)]
      rfl

theorem Tallied.emitted_first (tallied : Tallied conn ledger)
    (alive : conn.phase ≠ .closed) :
    ∃ cursor, ledger.opened.or (some ledger.cursor) = some cursor ∧
      conn.pendingDroppedFirst.getD (cursorToFirst conn.lastDeliveredEventId) =
        cursorToFirst cursor := by
  rw [tallied.first alive, tallied.cursor]
  cases ledger.opened with
  | none => exact ⟨_, rfl, rfl⟩
  | some cursor => exact ⟨cursor, rfl, rfl⟩

/-- A lag on an active subscription is suppressed, sent, or fails to be sent. -/
theorem Tallied.lag (tallied : Tallied conn ledger)
    (alive : conn.phase ≠ .closed) (active : conn.subscriptions ≠ [])
    (loses : lost ≠ []) (now coalesceWindow : Nat) (sent : Bool) :
    ∃ after report,
      conn.lag lost now lost.length coalesceWindow sent =
        (after, .lagged lost conn.subscriptions :: Conn.droppedFrames report) ∧
      (∀ frame ∈ report, (ledger.observe
        (.lagged lost conn.subscriptions)).Reports frame ∧
        ∀ before ∈ conn.lastDroppedAt, before + coalesceWindow < now) ∧
      Tallied after ((Conn.droppedFrames report).foldl Pending.observe
        (ledger.observe (.lagged lost conn.subscriptions))) ∧
      after.lastDroppedAt =
        if report.isSome then some now else conn.lastDroppedAt := by
  rw [observe_lagged active]
  have opens : ledger.opened.or (some ledger.cursor) = none ↔
      ledger.lost ++ lost = [] := by
    simp [loses]
  have count : u64SaturatingAdd conn.pendingDropCount lost.length =
      min u64Max (ledger.lost ++ lost).length := by
    rw [tallied.count alive, saturated_length]
  simp only [Conn.lag, if_neg active, Conn.emitDroppedOrCoalesce,
    coalesceDecision]
  by_cases within : conn.lastDroppedAt.any (now - · ≤ coalesceWindow) = true
  · simp only [within, if_true]
    exact ⟨_, none, rfl, by simp,
      { cursor := tallied.cursor
        opens := opens
        count := fun _ => count
        first := fun _ => tallied.captured alive }, rfl⟩
  · simp only [within, if_false, Bool.false_eq_true]
    have late : ∀ before ∈ conn.lastDroppedAt, before + coalesceWindow < now := by
      intro before member
      rw [Option.mem_def] at member
      rw [member] at within
      simp only [Option.any_some, decide_eq_true_eq] at within
      omega
    have counted : 0 < u64SaturatingAdd conn.pendingDropCount lost.length := by
      have positive := List.length_pos_of_ne_nil loses
      have room : 0 < u64Max := by decide
      rw [count, List.length_append]
      omega
    obtain ⟨cursor, opened, first⟩ := tallied.emitted_first alive
    rw [DroppedFrame.new_ok counted (range_ordered (tallied.first_le alive) _)]
    cases sent with
    | true =>
        refine ⟨_, some _, rfl, ?_, ?_, rfl⟩
        · intro frame same
          cases same
          exact ⟨⟨⟨cursor, opened, first⟩, count, rfl⟩, late⟩
        · exact {
            cursor := tallied.cursor
            opens := by simp [Conn.droppedFrames, Pending.observe]
            count := fun _ => rfl
            first := fun _ => rfl }
    | false =>
        exact ⟨_, none, rfl, by simp,
          { cursor := tallied.cursor
            opens := opens
            count := fun open_ => absurd rfl open_
            first := fun open_ => absurd rfl open_ }, rfl⟩

end Lag

section Step

variable {view : View} {conn next : Conn} {label : ConnLabel}
variable {out : List ConnSeen} {ledger : Pending}

theorem step_alive (taken : conn.step view label = some (next, out)) :
    conn.phase ≠ .closed := by
  intro closed
  cases label <;> simp [Conn.step, closed] at taken

/-- A receive that lags is the lag, in the main loop and in a drain. -/
theorem step_lagged {now n : Nat} {sent : Bool}
    (taken : conn.step view (.receive now sent) = some (next, out))
    (behind : Broadcast.receive view.hub view.config.capacity conn.next =
      (.lagged n, conn.next + n)) :
    { conn with next := conn.next + n }.lag
      (Broadcast.skipped view.hub conn.next n) now n
      view.config.coalesceWindow sent = (next, out) := by
  have took : conn.take view now sent = some
      ({ conn with next := conn.next + n }.lag
        (Broadcast.skipped view.hub conn.next n) now n
        view.config.coalesceWindow sent) := by
    unfold Conn.take
    rw [behind]
  cases phase : conn.phase with
  | main =>
      simp only [Conn.step, phase, took] at taken
      split at taken
      · cases taken
      · exact Option.some.inj taken
  | draining drain =>
      simp only [Conn.step, phase, took] at taken
      exact Option.some.inj taken
  | greeting | readingClock | readingSnapshot | emitting | closing | closed =>
      simp [Conn.step, phase] at taken

/-- What a step does to the ledger when it is no lag: it may move the cursor. -/
structure Unlagged (conn next : Conn) (out : List ConnSeen) : Prop where
  folds : ∀ ledger : Pending, ledger.cursor = conn.lastDeliveredEventId →
    out.foldl Pending.observe ledger =
      { ledger with cursor := next.lastDeliveredEventId }
  silent : ∀ here ∈ out, isDropped here = false
  count : next.pendingDropCount = conn.pendingDropCount
  first : next.pendingDroppedFirst = conn.pendingDroppedFirst
  time : next.lastDroppedAt = conn.lastDroppedAt

theorem Unlagged.tallied (quiet : Unlagged conn next out)
    (alive : conn.phase ≠ .closed) (tallied : Tallied conn ledger) :
    Tallied next (out.foldl Pending.observe ledger) := by
  rw [quiet.folds ledger tallied.cursor.symm]
  exact {
    cursor := rfl
    opens := tallied.opens
    count := fun _ => quiet.count.trans (tallied.count alive)
    first := fun _ => quiet.first.trans (tallied.first alive) }

/-- A step is the lag of an active subscription, or quiet. -/
theorem step_pending (taken : conn.step view label = some (next, out)) :
    Unlagged conn next out ∨
      ∃ now sent lost, label = .receive now sent ∧ lost ≠ [] ∧
        conn.subscriptions ≠ [] ∧
        { conn with next := conn.next + lost.length }.lag lost now lost.length
          view.config.coalesceWindow sent = (next, out) := by
  cases Conn.step_moves taken with
  | @lagged now n sent _ _ _ _ _ report receives behind =>
      have lags := step_lagged taken behind
      by_cases active : conn.subscriptions = []
      · left
        rw [Conn.lag, if_pos active, Prod.mk.injEq] at lags
        rw [← lags.1, ← lags.2]
        exact ⟨fun ledger same => by simp [Pending.observe, active, ← same],
          by simp [isDropped, dropped?], rfl, rfl, rfl⟩
      · right
        obtain ⟨positive, _, within⟩ := Broadcast.receive_lagged behind
        have length := Broadcast.length_skipped within
        refine ⟨now, sent, Broadcast.skipped view.hub conn.next n, rfl,
          List.ne_nil_of_length_pos (by omega), active, ?_⟩
        rw [length]
        exact lags
  | @sent now envelope =>
      left
      cases envelope with
      | event event =>
          exact ⟨fun _ _ => rfl, by simp [isDropped, dropped?, envelopeFrame],
            rfl, rfl, rfl⟩
      | state =>
          exact ⟨fun ledger same => by
              simp [Pending.observe, envelopeFrame, Conn.delivered, ← same],
            by simp [isDropped, dropped?, envelopeFrame], rfl, rfl, rfl⟩
  | @drained _ _ drain =>
      left
      cases drain <;>
        exact ⟨fun ledger same => by
            simp [Pending.observe, Conn.endDrain, Conn.unsubscribe, ← same],
          by simp [isDropped, dropped?, Conn.endDrain], rfl, rfl, rfl⟩
  | ended _ reason =>
      left
      cases reason <;>
        exact ⟨fun ledger same => by simp [Pending.observe, ← same],
          by simp [isDropped, dropped?], rfl, rfl, rfl⟩
  | greeted | poked | drains | unsent | filtered | readClock | readSnapshot
    | emitted | unemitted | saidClose =>
      exact .inl ⟨fun ledger same => by
          simp [Pending.observe, Conn.readSnapshot, ← same],
        by simp [isDropped, dropped?, Conn.readSnapshot], rfl, rfl, rfl⟩

end Step

section World

variable {config : WsConfig} {world next : World} {label : WorldLabel}
variable {out : List WorldSeen} {trace : List (WorldLabel × List WorldSeen)}

theorem observed_snoc (trace : List (WorldLabel × List WorldSeen))
    (label : WorldLabel) (out : List WorldSeen) :
    observed (trace ++ [(label, out)]) = observed trace ++ connSeen out := by
  simp [observed]

/-- The connection steps, is there for the first time, or sees nothing. -/
theorem World.step_conn (taken : world.step config label = some (next, out)) :
    (∃ connLabel conn after moved, label = .conn connLabel ∧
      world.conn = some conn ∧
      conn.step (world.view config) connLabel = some (after, moved) ∧
      next.conn = some after ∧ out = moved.map .conn) ∨
    (∀ connLabel, label ≠ .conn connLabel) ∧
      ((∃ hello position, world.conn = none ∧ out = [.conn .upgraded] ∧
          next.conn = some (Conn.upgraded hello position)) ∨
        next.conn = world.conn ∧ connSeen out = []) := by
  by_cases own : ∃ connLabel, label = .conn connLabel
  · obtain ⟨connLabel, rfl⟩ := own
    left
    simp only [World.step] at taken
    cases present : world.conn with
    | none =>
        rw [present] at taken
        cases taken
    | some conn =>
        rw [present] at taken
        obtain ⟨⟨after, moved⟩, stepped, same⟩ :=
          Option.map_eq_some_iff.mp taken
        cases same
        exact ⟨connLabel, conn, after, moved, rfl, rfl, stepped, rfl, rfl⟩
  · right
    refine ⟨fun connLabel same => own ⟨connLabel, same⟩, ?_⟩
    cases World.step_moves taken with
    | @upgraded hello absent =>
        exact .inl ⟨hello, _, absent, rfl, rfl⟩
    | conn => exact absurd ⟨_, rfl⟩ own
    | clock | flagged => exact .inr ⟨rfl, rfl⟩
    | begin _ _ _ | transact _ | finish _ =>
        exact .inr ⟨rfl, connSeen_store _⟩

theorem emittedAt_elsewhere (other : ∀ connLabel, label ≠ .conn connLabel)
    (out : List WorldSeen) : emittedAt? (label, out) = none := by
  cases label with
  | conn connLabel => exact absurd rfl (other connLabel)
  | clock | begin | transact | finish | requestShutdown | joinIngestWriter
    | joinLiveness | requestWsClose | computeHello | upgrade => rfl

theorem emittedAt_silent {moved : List ConnSeen}
    (silent : ∀ here ∈ moved, isDropped here = false) :
    emittedAt? (label, moved.map .conn) = none := by
  unfold emittedAt?
  split
  · rename_i same
    cases same
    rw [connSeen_conn, if_neg]
    simpa using silent
  · rfl

/-- The ledger's invariant on the labelled runs. -/
structure Coalescing (config : WsConfig) (world : World)
    (trace : List (WorldLabel × List WorldSeen)) : Prop where
  absent : world.conn = none → observed trace = [] ∧ emissions trace = []
  tallied : ∀ conn, world.conn = some conn →
    Tallied conn (pendingOf (observed trace))
  timed : ∀ conn, world.conn = some conn →
    conn.lastDroppedAt = (emissions trace).getLast?
  reported : Trace.Each (fun past here => ∀ report,
    dropped? here = some report → (pendingOf past).Reports report)
    (observed trace)
  spaced : (emissions trace).Pairwise
    fun first second => first + config.coalesceWindow < second

theorem emissions_snoc (trace : List (WorldLabel × List WorldSeen))
    (label : WorldLabel) (out : List WorldSeen) :
    emissions (trace ++ [(label, out)]) =
      emissions trace ++ (emittedAt? (label, out)).toList := by
  rw [emissions, List.filterMap_append]
  cases emitted : emittedAt? (label, out) <;> simp [emissions, emitted]

/-- A reading of the clock that is late enough after the last one is so after
all of them. -/
theorem spaced_snoc {times : List Nat} {window now : Nat}
    (spaced : times.Pairwise fun first second => first + window < second)
    (late : ∀ before ∈ times.getLast?, before + window < now) :
    (times ++ [now]).Pairwise fun first second => first + window < second := by
  refine List.pairwise_append.mpr ⟨spaced, List.pairwise_singleton _ _, ?_⟩
  intro earlier member other same
  rw [List.mem_singleton.mp same]
  rcases List.eq_nil_or_concat times with rfl | ⟨front, last, rfl⟩
  · cases member
  · rw [List.concat_eq_append] at spaced late member
    have close := late last (by simp)
    rcases List.mem_append.mp member with member | member
    · have before := (List.pairwise_append.mp spaced).2.2 earlier member last
        (List.mem_singleton_self last)
      omega
    · rw [List.mem_singleton.mp member]
      exact close

/-- Where no dropped frame is sent, only the ledger can have changed. -/
theorem Coalescing.unreported (coalescing : Coalescing config world trace)
    (silent : ∀ here ∈ connSeen out, isDropped here = false)
    (quiet : emittedAt? (label, out) = none)
    (absent : next.conn = none →
      observed trace ++ connSeen out = [] ∧ emissions trace = [])
    (tallied : ∀ conn, next.conn = some conn →
      Tallied conn (pendingOf (observed trace ++ connSeen out)) ∧
      conn.lastDroppedAt = (emissions trace).getLast?) :
    Coalescing config next (trace ++ [(label, out)]) := by
  have same : emissions (trace ++ [(label, out)]) = emissions trace := by
    rw [emissions_snoc, quiet, Option.toList_none, List.append_nil]
  refine ⟨?_, ?_, ?_, ?_, ?_⟩
  · intro none
    rw [observed_snoc, same]
    exact absent none
  · intro conn found
    rw [observed_snoc]
    exact (tallied conn found).1
  · intro conn found
    rw [same]
    exact (tallied conn found).2
  · rw [observed_snoc]
    refine coalescing.reported.append fun early here late split report own => ?_
    have none := silent here (by rw [split]; simp)
    rw [isDropped, own] at none
    cases none
  · rw [same]
    exact coalescing.spaced

theorem Coalescing.lagged {conn after : Conn} {now : Nat} {sent : Bool}
    {lost : List BroadcastEnvelope} {topics : List Topic}
    {report : Option DroppedFrame}
    (coalescing : Coalescing config world trace) (found : next.conn = some after)
    (timed : conn.lastDroppedAt = (emissions trace).getLast?)
    (reports : ∀ frame ∈ report,
      ((pendingOf (observed trace)).observe (.lagged lost topics)).Reports frame ∧
        ∀ before ∈ conn.lastDroppedAt, before + config.coalesceWindow < now)
    (tallies : Tallied after ((Conn.droppedFrames report).foldl Pending.observe
      ((pendingOf (observed trace)).observe (.lagged lost topics))))
    (time : after.lastDroppedAt =
      if report.isSome then some now else conn.lastDroppedAt) :
    Coalescing config next (trace ++ [(.conn (.receive now sent),
      (.lagged lost topics :: Conn.droppedFrames report).map .conn)]) := by
  cases report with
  | none =>
      have silent : ∀ here ∈ .lagged lost topics :: Conn.droppedFrames none,
          isDropped here = false := by
        simp [Conn.droppedFrames, isDropped, dropped?]
      refine coalescing.unreported (by rwa [connSeen_conn])
        (emittedAt_silent silent) (by simp [found]) ?_
      intro other same
      cases found.symm.trans same
      rw [connSeen_conn, pendingOf_append]
      exact ⟨tallies, time.trans timed⟩
  | some frame =>
      obtain ⟨closes, late⟩ := reports frame rfl
      have emitted : emittedAt? (.conn (.receive now sent),
          (.lagged lost topics :: Conn.droppedFrames (some frame)).map
            .conn) = some now := by
        rw [emittedAt?, connSeen_conn]
        rfl
      refine ⟨by simp [found], ?_, ?_, ?_, ?_⟩
      · intro other same
        cases found.symm.trans same
        rw [observed_snoc, connSeen_conn, pendingOf_append]
        exact tallies
      · intro other same
        cases found.symm.trans same
        rw [emissions_snoc, emitted, time]
        simp
      · rw [observed_snoc, connSeen_conn]
        refine coalescing.reported.append (Trace.each_cons.mpr ⟨?_,
          Trace.each_cons.mpr ⟨?_, Trace.each_nil⟩⟩)
        · intro report own
          cases own
        · intro report own
          cases own
          rw [pendingOf_append]
          exact closes
      · rw [emissions_snoc, emitted]
        exact spaced_snoc coalescing.spaced (timed ▸ late)

theorem Coalescing.step (coalescing : Coalescing config world trace)
    (taken : world.step config label = some (next, out)) :
    Coalescing config next (trace ++ [(label, out)]) := by
  rcases World.step_conn taken with
    ⟨connLabel, conn, after, moved, rfl, present, stepped, found, rfl⟩ |
    ⟨other, ⟨hello, position, absent, rfl, found⟩ | ⟨same, nothing⟩⟩
  · have tallied := coalescing.tallied conn present
    have timed := coalescing.timed conn present
    have alive := step_alive stepped
    rcases step_pending stepped with quiet |
      ⟨now, sent, lost, rfl, loses, active, lags⟩
    · refine coalescing.unreported (by simpa using quiet.silent)
        (emittedAt_silent quiet.silent) (by simp [found]) ?_
      intro other same
      cases found.symm.trans same
      rw [connSeen_conn, pendingOf_append]
      exact ⟨quiet.tallied alive tallied, quiet.time.trans timed⟩
    · have moved : Tallied { conn with next := conn.next + lost.length }
          (pendingOf (observed trace)) :=
        ⟨tallied.cursor, tallied.opens, tallied.count, tallied.first⟩
      obtain ⟨last, report, lagged, reports, tallies, time⟩ :=
        moved.lag alive active loses now config.coalesceWindow sent
      cases lagged.symm.trans lags
      exact coalescing.lagged found timed reports tallies time
  · obtain ⟨nothing, never⟩ := coalescing.absent absent
    refine coalescing.unreported (by simp [connSeen, WorldSeen.conn?, isDropped,
      dropped?]) (emittedAt_elsewhere other _) (by simp [found]) ?_
    intro conn same
    cases found.symm.trans same
    rw [nothing, never]
    exact ⟨⟨rfl, by simp [pendingOf, connSeen, WorldSeen.conn?, Pending.observe,
      Pending.initial], fun _ => rfl, fun _ => rfl⟩, rfl⟩
  · refine coalescing.unreported (by simp [nothing])
      (emittedAt_elsewhere other _) ?_ ?_
    · rw [same, nothing, List.append_nil]
      exact coalescing.absent
    · intro conn present
      rw [same] at present
      rw [nothing, List.append_nil]
      exact ⟨coalescing.tallied conn present, coalescing.timed conn present⟩

theorem coalescing_of_run {ok : World → WorldLabel → Prop} {db : Db}
    {hub : List BroadcastEnvelope} {clock : Nat} {final : World}
    (run : (World.machine config).labelled.Run ok
      (World.initial db hub clock) final trace) :
    Coalescing config final trace := by
  refine run.invariant (Coalescing config) ?_ ?_
  · exact {
      absent := fun _ => ⟨rfl, rfl⟩
      tallied := fun _ absent => nomatch absent
      timed := fun _ absent => nomatch absent
      reported := Trace.each_nil
      spaced := List.Pairwise.nil }
  · intro middle next trace out label _ coalescing _ taken
    obtain ⟨reported, stepped, rfl⟩ := Machine.labelled_step taken
    exact coalescing.step stepped

end World

/-! What the ledger says of a trace. -/

section Ledger

variable {seen : List ConnSeen} {event : Event}

theorem lostCount_append (seen out : List ConnSeen) :
    lostCount (seen ++ out) = lostCount seen + lostCount out := by
  simp [lostCount]

theorem reportedCount_append (seen out : List ConnSeen) :
    reportedCount (seen ++ out) = reportedCount seen + reportedCount out := by
  simp [reportedCount]

theorem observe_lost (ledger : Pending) (here : ConnSeen) :
    (ledger.observe here).lost =
      if isDropped here then [] else ledger.lost ++ lagLost here := by
  cases here with
  | frame message origin =>
      cases message <;> simp [Pending.observe, isDropped, dropped?, lagLost]
  | lagged lost topics =>
      by_cases silent : topics = [] <;>
        simp [Pending.observe, isDropped, dropped?, lagLost, silent]
  | upgraded | dequeued | drained | subscribed | unsubscribed | wsClose =>
      simp [Pending.observe, isDropped, dropped?, lagLost]

theorem lost_le (seen : List ConnSeen) :
    (pendingOf seen).lost.length ≤ lostCount seen := by
  induction seen using List.reverseRecOn with
  | nil => exact Nat.zero_le _
  | append_singleton seen here induction =>
      rw [lostCount_append, pendingOf_append, List.foldl_cons, List.foldl_nil,
        observe_lost]
      split
      · exact Nat.zero_le _
      · simp only [List.length_append, lostCount, List.flatMap_singleton]
        exact Nat.add_le_add_right induction _

theorem counted_of_reported
    (reported : Trace.Each (fun past here => ∀ report,
      dropped? here = some report → (pendingOf past).Reports report) seen)
    (few : lostCount seen ≤ u64Max) :
    reportedCount seen + (pendingOf seen).lost.length = lostCount seen := by
  induction seen using List.reverseRecOn with
  | nil => rfl
  | append_singleton seen here induction =>
      rw [lostCount_append] at few ⊢
      have before := induction reported.of_append (by omega)
      rw [reportedCount_append, pendingOf_append, List.foldl_cons, List.foldl_nil,
        observe_lost]
      cases own : dropped? here with
      | none =>
          simp only [isDropped, own, reportedCount, List.filterMap_cons,
            List.filterMap_nil, lostCount, List.flatMap_singleton,
            Option.isSome_none, Bool.false_eq_true, if_false,
            List.length_append, List.map_nil, List.sum_nil] at before ⊢
          omega
      | some report =>
          have closes := reported.last report own
          have bound := lost_le seen
          have loses : lagLost here = [] := by
            cases here <;> first | rfl | cases own
          simp only [isDropped, own, reportedCount, List.filterMap_cons,
            List.filterMap_nil, lostCount, List.flatMap_singleton, loses,
            Option.isSome_some, if_true, List.length_nil, List.map_cons,
            List.map_nil, List.sum_cons, List.sum_nil, closes.count]
            at before bound few ⊢
          omega

theorem pendingOf_cursor (seen : List ConnSeen) :
    (pendingOf seen).cursor = eventCursor seen := by
  induction seen using List.reverseRecOn with
  | nil => rfl
  | append_singleton seen here induction =>
      rw [eventCursor, Trace.latest_append, Trace.latest_singleton,
        pendingOf_append, List.foldl_cons, List.foldl_nil]
      cases here with
      | frame message origin =>
          cases message <;>
            simp [Pending.observe, eventFrame?, ServerMessage.event?, induction,
              eventCursor]
      | lagged lost topics =>
          by_cases silent : topics = [] <;>
            simp [Pending.observe, eventFrame?, induction, eventCursor, silent]
      | upgraded | dequeued | drained | subscribed | unsubscribed | wsClose =>
          simp [Pending.observe, eventFrame?, induction, eventCursor]

theorem mem_pendingOf_lost :
    .event event ∈ (pendingOf seen).lost ↔ LostSince event seen := by
  induction seen using List.reverseRecOn with
  | nil => exact iff_of_false (by simp [Pending.initial]) Trace.not_since_nil
  | append_singleton seen here induction =>
      rw [LostSince, Trace.since_append, Trace.since_singleton, pendingOf_append,
        List.foldl_cons, List.foldl_nil, observe_lost, List.forall_mem_singleton,
        ← LostSince, ← induction]
      cases dropped : isDropped here with
      | false => simp [or_comm]
      | true =>
          have loses : lagLost here = [] := by
            cases here <;> first | rfl | cases dropped
          simp [loses]

/-- An event frame names an event that the receiver has moved past. -/
theorem cursor_taken (each : Trace.Each Framed seen) {cursor : Int}
    (last : eventCursor seen = some cursor) :
    ∃ shown ∈ takenEvents seen, shown.eventId = cursor := by
  obtain ⟨shown, found, rfl⟩ := Option.map_eq_some_iff.mp last
  obtain ⟨early, here, late, rfl, framed, _⟩ := Trace.latest_split found
  refine ⟨shown, ?_, rfl⟩
  rw [takenEvents_append]
  exact List.mem_append_left _ (framed_taken each rfl framed)

theorem observe_dropped {here : ConnSeen} (dropped : isDropped here = true)
    (ledger : Pending) :
    ledger.observe here = { ledger with opened := none, lost := [] } := by
  cases here with
  | frame message origin => cases message <;> first | rfl | cases dropped
  | upgraded | dequeued | lagged | drained | subscribed | unsubscribed
    | wsClose => cases dropped

theorem observe_idle {here : ConnSeen}
    (idle : ¬ ∃ lost topics, here = .lagged lost topics ∧ topics ≠ [])
    (undropped : isDropped here = false) (ledger : Pending) :
    (ledger.observe here).opened = ledger.opened ∧
      (ledger.observe here).lost = ledger.lost := by
  cases here with
  | frame message origin =>
      cases message <;> first | exact ⟨rfl, rfl⟩ | cases undropped
  | lagged lost topics =>
      have silent : topics = [] := by
        by_contra active
        exact idle ⟨lost, topics, rfl, active⟩
      simp [Pending.observe, silent]
  | upgraded | dequeued | drained | subscribed | unsubscribed | wsClose =>
      exact ⟨rfl, rfl⟩

/-- Once it is open, the ledger holds envelopes of the channel after the cursor
that it was opened with. -/
theorem pendingOf_ahead (each : Trace.Each Framed seen)
    (ascend : EventsAscend seen) :
    ((pendingOf seen).opened = none → (pendingOf seen).lost = []) ∧
      ∀ cursor, (pendingOf seen).opened = some (some cursor) →
        (∃ shown ∈ takenEvents seen, shown.eventId = cursor) ∧
          ∀ event, .event event ∈ (pendingOf seen).lost →
            cursor < event.eventId := by
  induction seen using List.reverseRecOn with
  | nil => exact ⟨fun _ => rfl, fun _ opened => by cases opened⟩
  | append_singleton seen here induction =>
      have earlier : EventsAscend seen := by
        rw [EventsAscend, takenEvents_append, List.pairwise_append] at ascend
        exact ascend.1
      obtain ⟨closed, ahead⟩ := induction each.of_append earlier
      have grows : ∀ {event}, event ∈ takenEvents seen →
          event ∈ takenEvents (seen ++ [here]) := by
        intro event member
        rw [takenEvents_append]
        exact List.mem_append_left _ member
      rw [pendingOf_append, List.foldl_cons, List.foldl_nil]
      by_cases lags : ∃ lost topics, here = .lagged lost topics ∧ topics ≠ []
      · obtain ⟨lost, topics, rfl, active⟩ := lags
        rw [observe_lagged active]
        refine ⟨by simp, fun cursor opened => ?_⟩
        have before : (∃ shown ∈ takenEvents seen, shown.eventId = cursor) ∧
            ∀ event, .event event ∈ (pendingOf seen).lost →
              cursor < event.eventId := by
          cases was : (pendingOf seen).opened with
          | none =>
              rw [was] at opened
              refine ⟨cursor_taken each.of_append ?_, by simp [closed was]⟩
              rw [← pendingOf_cursor]
              exact Option.some.inj opened
          | some own =>
              rw [was] at opened
              exact ahead cursor (was.trans opened)
        obtain ⟨⟨shown, inside, rfl⟩, old⟩ := before
        refine ⟨⟨shown, grows inside, rfl⟩, fun event member => ?_⟩
        rcases List.mem_append.mp member with member | member
        · exact old event member
        · have own : event ∈ takenEvents [.lagged lost topics] :=
            List.mem_filterMap.mpr ⟨.event event, by simpa [taken, takenBy],
              rfl⟩
          exact ascend.order inside own
      · cases dropped : isDropped here with
        | true =>
            rw [observe_dropped dropped]
            exact ⟨fun _ => rfl, fun _ opened => by cases opened⟩
        | false =>
            obtain ⟨opened, lost⟩ := observe_idle lags dropped (pendingOf seen)
            rw [opened, lost]
            refine ⟨closed, fun cursor was => ?_⟩
            obtain ⟨⟨shown, inside, same⟩, later⟩ := ahead cursor was
            exact ⟨⟨shown, grows inside, same⟩, later⟩

/-- The ledger holds what the receiver has moved past, in its order. -/
theorem lost_sublist (seen : List ConnSeen) :
    (pendingOf seen).lost.Sublist (taken seen) := by
  induction seen using List.reverseRecOn with
  | nil => exact List.Sublist.refl _
  | append_singleton seen here induction =>
      rw [pendingOf_append, List.foldl_cons, List.foldl_nil, observe_lost,
        taken_append]
      split
      · exact List.nil_sublist _
      · refine induction.append ?_
        cases here with
        | lagged lost topics =>
            by_cases silent : topics = [] <;>
              simp [lagLost, taken, takenBy, silent]
        | upgraded | frame | dequeued | drained | subscribed | unsubscribed
          | wsClose => exact List.nil_sublist _

theorem taken_of_lost (lost : .event event ∈ (pendingOf seen).lost) :
    event ∈ takenEvents seen :=
  List.mem_filterMap.mpr ⟨_, (lost_sublist seen).subset lost, rfl⟩

end Ledger

section Run

variable {config : WsConfig} {ok : World → WorldLabel → Prop} {db : Db}
variable {hub : List BroadcastEnvelope} {clock : Nat} {final : World}
variable {seen : List WorldSeen} {early : List ConnSeen} {event : Event}

theorem moves_frames {view : View} {conn next : Conn} {label : ConnLabel}
    {out : List ConnSeen} (moves : Conn.Moves view conn label next out) :
    (out.filterMap eventFrame?).Sublist (takenEvents out) := by
  cases moves with
  | @sent now envelope => cases envelope <;> exact List.Sublist.refl _
  | @lagged _ _ _ _ _ _ _ _ report =>
      have silent : (Conn.droppedFrames report).filterMap eventFrame? = [] := by
        cases report <;> rfl
      rw [List.filterMap_cons_none rfl, silent]
      exact List.nil_sublist _
  | @drained _ _ drain => cases drain <;> exact List.nil_sublist _
  | ended _ reason => cases reason <;> exact List.nil_sublist _
  | greeted | poked | drains | unsent | filtered | readClock | readSnapshot
    | emitted | unemitted | saidClose => exact List.nil_sublist _

theorem frames_of_run
    (run : (World.machine config).Run ok (World.initial db hub clock) final
      seen) :
    ((connSeen seen).filterMap eventFrame?).Sublist
      (takenEvents (connSeen seen)) := by
  refine run.invariant (fun _ seen => ((connSeen seen).filterMap
    eventFrame?).Sublist (takenEvents (connSeen seen))) (List.nil_sublist _) ?_
  intro middle next seen out label _ before _ taken
  rw [connSeen_append, List.filterMap_append, takenEvents_append]
  refine before.append ?_
  cases World.step_moves taken with
  | conn _ moves =>
      rw [connSeen_conn]
      exact moves_frames moves
  | begin _ _ _ | transact _ | finish _ =>
      rw [connSeen_store]
      exact List.nil_sublist _
  | clock | flagged | upgraded => exact List.nil_sublist _

theorem taken_positive {reach : ProcessConfig → Process → ProcessLabel → Prop}
    (reached : Reached reach db)
    (run : (World.machine config).Run ok (World.initial db hub clock) final
      seen)
    (taken : event ∈ takenEvents (connSeen seen)) : 0 < event.eventId := by
  have ledger := World.ledger run reached.wellFormed rfl
  obtain ⟨commit, member, emits⟩ := ledger.announced_event
    (List.mem_append_left _ (published_of_taken run taken))
  obtain ⟨runs, history⟩ := reached.history
  have start : 0 ≤ db.eventSeq := history.positive.1
  have later := ledger.chained.eventSeq.2 commit member
  rw [Commit.row_event emits] at later
  exact lt_of_le_of_lt start later

/-- The events that the receiver has moved past at any moment of a run. -/
theorem past_of_run {reach : ProcessConfig → Process → ProcessLabel → Prop}
    (reached : Reached reach db)
    (run : (World.machine config).Run ok (World.initial db hub clock) final
      seen)
    {early late : List ConnSeen} (split : connSeen seen = early ++ late) :
    Trace.Each Framed early ∧ EventsAscend early ∧
      ∀ event ∈ takenEvents early, 0 < event.eventId := by
  have each := framed_of_run run
  have ascend := eventsAscend_of_run run reached.wellFormed
  rw [split] at each ascend
  rw [EventsAscend, takenEvents_append, List.pairwise_append] at ascend
  refine ⟨each.of_append, ascend.1, fun event member => ?_⟩
  apply taken_positive reached run
  rw [split, takenEvents_append]
  exact List.mem_append_left _ member

/-- A report that closes the ledger starts before all that was lost. -/
theorem first_le_lost (each : Trace.Each Framed early)
    (ascend : EventsAscend early)
    (positive : ∀ event ∈ takenEvents early, 0 < event.eventId)
    {report : DroppedFrame} (closes : (pendingOf early).Reports report)
    (lost : .event event ∈ (pendingOf early).lost) :
    report.firstDroppedEventId ≤ event.eventId := by
  have above := positive event (taken_of_lost lost)
  obtain ⟨cursor, opened, first⟩ := closes.opened
  rw [first]
  cases cursor with
  | none => exact above.le
  | some cursor =>
      have later := ((pendingOf_ahead each ascend).2 cursor opened).2 event lost
      have negative : i64Min ≤ 0 := by decide
      simp only [cursorToFirst, i64SaturatingAdd]
      omega

end Run

/-! Times that lie more than a window apart are few in any interval. -/

section Spaced

variable {times : List Nat} {window : Nat}

theorem spaced_product (start length : Nat)
    (spaced : times.Pairwise fun first second => first + window < second)
    (within : ∀ time ∈ times, start ≤ time ∧ time < start + length)
    (positive : 0 < window) : times.length * window < length + window := by
  induction times generalizing start length with
  | nil =>
      rw [List.length_nil, Nat.zero_mul]
      omega
  | cons time rest induction =>
      obtain ⟨after, spaced⟩ := List.pairwise_cons.mp spaced
      have here := within time List.mem_cons_self
      rw [List.length_cons, Nat.add_mul, Nat.one_mul]
      cases rest with
      | nil =>
          rw [List.length_nil, Nat.zero_mul]
          omega
      | cons second rest =>
          have next := after second List.mem_cons_self
          have last := within second (by simp)
          have fewer := induction (time + window)
            (start + length - (time + window)) spaced (by
              intro other member
              have later := after other member
              have bound := within other (List.mem_cons_of_mem _ member)
              omega)
          omega

theorem spaced_length (start length : Nat)
    (spaced : times.Pairwise fun first second => first + window < second)
    (within : ∀ time ∈ times, start ≤ time ∧ time < start + length)
    (positive : 0 < window) : times.length ≤ length ⌈/⌉ window := by
  have product := spaced_product start length spaced within positive
  rw [Nat.ceilDiv_eq_add_pred_div, Nat.le_div_iff_mul_le positive]
  omega

end Spaced

/-- A connection coalesces the lags of its subscriptions, in every run. -/
theorem lags_coalesce {config : WsConfig} {ok : World → WorldLabel → Prop}
    {reach : ProcessConfig → Process → ProcessLabel → Prop} {db : Db}
    {hub : List BroadcastEnvelope} {clock : Nat} {final : World}
    {trace : List (WorldLabel × List WorldSeen)} {conn : Conn}
    (reached : Reached reach db)
    (run : (World.machine config).labelled.Run ok
      (World.initial db hub clock) final trace)
    (present : final.conn = some conn) : Coalesces config conn trace := by
  have coalescing := coalescing_of_run run
  have tallied := coalescing.tallied conn present
  exact {
    counted := by
      intro alive few
      rw [tallied.count alive, Nat.min_eq_right]
      · exact counted_of_reported coalescing.reported few
      · exact (lost_le _).trans few
    accepted := by
      intro alive now n positive count first last kept decided
      by_cases within : conn.lastDroppedAt.any
          (now - · ≤ config.coalesceWindow) = true
      · simp only [coalesceDecision, within, if_true] at decided
        cases decided
      · simp only [coalesceDecision, within, if_false, Bool.false_eq_true]
          at decided
        cases decided
        have room : 0 < u64Max := by decide
        have counted : 0 < u64SaturatingAdd conn.pendingDropCount n := by
          rw [u64SaturatingAdd]
          omega
        exact ⟨_, DroppedFrame.new_ok counted
          (range_ordered (tallied.first_le alive) _)⟩
    first := by
      intro early here late split report own event lost
      obtain ⟨each, ascend, positive⟩ :=
        past_of_run reached run.unlabelled split
      exact first_le_lost each ascend positive
        (coalescing.reported early here late split report own)
        (mem_pendingOf_lost.mpr lost)
    cursor := tallied.cursor.trans (pendingOf_cursor _)
    ascending := (eventsAscend_of_run run.unlabelled reached.wellFormed).sublist
      (frames_of_run run.unlabelled)
    paced := by
      intro positive start length
      refine spaced_length start length (coalescing.spaced.filter _)
        (fun time member => ?_) positive
      exact of_decide_eq_true (List.mem_filter.mp member).2 }

/-- Three lags in two frames: the second lag falls into the window of the first
frame, and an event is delivered before the third. -/
theorem lags_coalesce_threeLags :
    ∃ conn trace, (emissions trace = [100, 120] ∧
        ((observed trace).filterMap dropped?).length = 2) ∧
      Coalesces smallConfig conn trace := by
  have ⟨final, trace, run, checked⟩ := Machine.exec_check
    (Machine.execMeets_true (World.machine smallConfig).labelled
      (World.initial Db.empty [] 0) (threeLags true))
    (fun result : World × List (WorldLabel × List WorldSeen) =>
      result.1.conn.isSome && decide (emissions result.2 = [100, 120] ∧
        ((observed result.2).filterMap dropped?).length = 2))
    (by decide)
  rw [Bool.and_eq_true] at checked
  obtain ⟨conn, present⟩ := Option.isSome_iff_exists.mp checked.1
  have reached : Reached (fun _ _ _ => True) Db.empty := .empty
  exact ⟨conn, trace, of_decide_eq_true checked.2,
    lags_coalesce reached run present⟩

end Bowerbird.Daemon
