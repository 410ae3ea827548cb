import Bowerbird.Daemon.Connection
import Bowerbird.Daemon.System

namespace Bowerbird.Daemon

open Protocol Foundation Projection Api

/-! Exactly-once delivery in order, and what a graceful shutdown still delivers. -/

/-- Whether the socket takes what a step sends. -/
def sends : WorldLabel → Bool
  | .conn (.greet sent) | .conn (.receive _ sent) | .conn (.pingTick sent)
  | .conn (.emit sent) | .conn (.close sent) => sent
  | _ => true

def liveFrame? : ConnSeen → Option ServerMessage
  | .frame message .live => some message
  | _ => none

def eventFrame? : ConnSeen → Option Event
  | .frame message _ => message.event?
  | _ => none

/-- The frame that a dequeued envelope calls for under the topics of its time. -/
def judged? : ConnSeen → Option ServerMessage
  | .dequeued envelope topics =>
      if topics.any (·.matches envelope) then some (envelopeFrame envelope)
      else none
  | _ => none

def isFrame : ConnSeen → Bool
  | .frame _ _ => true
  | _ => false

def isClose : ConnSeen → Bool
  | .frame (.close _) _ => true
  | _ => false

def isChange : ConnSeen → Bool
  | .subscribed _ _ | .unsubscribed _ => true
  | _ => false

/-- What a connection does with the envelopes published while it is open. -/
structure DeliversOnce (seen : List WorldSeen) : Prop where
  /-- Event frames come in strictly ascending order of id. -/
  ascending : ((connSeen seen).filterMap eventFrame?).Pairwise
    fun first second => first.eventId < second.eventId
  /-- Every event frame is a live one. -/
  live : (connSeen seen).filterMap eventFrame? =
    ((connSeen seen).filterMap liveFrame?).filterMap ServerMessage.event?
  /-- The live frames are the dequeued envelopes that a topic matches. -/
  judged : (connSeen seen).filterMap liveFrame? =
    (connSeen seen).filterMap judged?
  /-- The topics that judge an envelope are those active at its dequeue. -/
  active : Trace.Each (fun past here => ∀ envelope topics,
    here = .dequeued envelope topics → topics = active past) (connSeen seen)
  /-- Envelopes are dequeued or lost once each, in the order of publication. -/
  taken : ∃ unread, arrivals seen = taken (connSeen seen) ++ unread
  /-- A topic joins or leaves right after a drain that has taken every envelope
  published before it. -/
  changes : ∀ early change late, seen = early ++ .conn change :: late →
    isChange change = true →
    ∃ before after, early = before ++ .conn .drained :: after ∧
      connSeen after = [] ∧
      Daemon.taken (connSeen before) = arrivals before
  /-- By the Close frame all that is ever published has been taken and judged;
  no frame follows it. -/
  closes : ∀ early close late, seen = early ++ .conn close :: late →
    isClose close = true →
    Daemon.taken (connSeen early) = arrivals seen ∧
      (connSeen early).filterMap liveFrame? =
        (connSeen early).filterMap judged? ∧
      ∀ other ∈ connSeen late, isFrame other = false

/-! The writers around a shutdown. -/

structure Orderly (world : World) : Prop where
  unjoined : ∀ flight, world.store.inFlight = some flight →
    world.joined flight.owner = false ∧
      flight.owner.writes flight.request = true
  liveness : world.livenessJoined = true → world.ingestWriterJoined = true
  closes : world.wsCloseRequested = true → world.livenessJoined = true

theorem resting_ne {world : World} {owner : WriterTask}
    {flight : InFlight WriterTask} (resting : world.resting owner = true)
    (busy : world.store.inFlight = some flight) : flight.owner ≠ owner := by
  rw [World.resting, busy] at resting
  simpa using resting

theorem transact_owner {store next : Store WriterTask} {faults : FaultPlan}
    {seen : List (StoreSeen WriterTask)}
    (taken : store.transact faults = some (next, seen))
    {after : InFlight WriterTask} (busy : next.inFlight = some after) :
    ∃ flight, store.inFlight = some flight ∧ after.owner = flight.owner ∧
      after.request = flight.request := by
  obtain ⟨flight, before, _, committed | aborted⟩ := Store.transact_cases taken
  · obtain ⟨result, db, _, _, _, rfl⟩ := committed
    cases busy
    exact ⟨flight, before, rfl, rfl⟩
  · obtain ⟨result, _, _, _, rfl⟩ := aborted
    cases busy
    exact ⟨flight, before, rfl, rfl⟩

section Step

variable {config : WsConfig} {world next : World} {label : WorldLabel}
variable {seen out : List WorldSeen}

theorem Orderly.step (orderly : Orderly world)
    (moves : World.Moves config world label next out) : Orderly next := by
  cases moves with
  | clock | upgraded | conn =>
      exact ⟨orderly.unjoined, orderly.liveness, orderly.closes⟩
  | begin unjoined writes taken =>
      refine ⟨?_, orderly.liveness, orderly.closes⟩
      obtain ⟨_, _, _, rfl⟩ := Store.begin_cases taken
      intro flight busy
      cases busy
      exact ⟨unjoined, writes⟩
  | transact taken =>
      refine ⟨?_, orderly.liveness, orderly.closes⟩
      intro after busy
      obtain ⟨flight, before, owner, request⟩ := transact_owner taken busy
      rw [owner, request]
      exact orderly.unjoined flight before
  | finish taken =>
      refine ⟨?_, orderly.liveness, orderly.closes⟩
      obtain ⟨_, _, _, _, _, rfl⟩ := Store.finish_cases taken
      intro flight busy
      cases busy
  | flagged ingest liveness closes kept =>
      refine ⟨?_, ?_, ?_⟩
      · intro flight busy
        obtain ⟨unjoined, writes⟩ := orderly.unjoined flight busy
        refine ⟨?_, writes⟩
        rw [Bool.eq_false_iff] at unjoined ⊢
        intro joined
        cases owner : flight.owner with
        | main => simp [World.joined, owner] at joined
        | ingest =>
            simp only [World.joined, owner] at joined unjoined
            rcases ingest joined with already | resting
            · exact unjoined already
            · exact resting_ne resting busy owner
        | liveness =>
            simp only [World.joined, owner] at joined unjoined
            rcases liveness joined with already | ⟨_, resting⟩
            · exact unjoined already
            · exact resting_ne resting busy owner
      · intro joined
        rcases liveness joined with already | ⟨ingestJoined, _⟩
        · exact kept.1 (orderly.liveness already)
        · exact kept.1 ingestJoined
      · intro requested
        rcases closes requested with already | joined
        · exact kept.2.1 (orderly.closes already)
        · exact kept.2.1 joined

theorem orderly_initial (db : Db) (hub : List BroadcastEnvelope)
    (clock : Nat) : Orderly (World.initial db hub clock) where
  unjoined := by
    intro flight busy
    cases busy
  liveness := by
    intro joined
    cases joined
  closes := by
    intro requested
    cases requested

/-- Once the tasks are joined, nothing is published any more. -/
theorem Orderly.silent (orderly : Orderly world)
    (requested : world.wsCloseRequested = true)
    (moves : World.Moves config world label next out) :
    published (storeSeen out) = [] := by
  cases moves with
  | clock | upgraded | flagged => rfl
  | conn =>
      rw [storeSeen_conn]
      rfl
  | begin unjoined writes taken =>
      obtain ⟨_, _, rfl, _⟩ := Store.begin_cases taken
      rfl
  | transact taken =>
      obtain ⟨_, _, _, committed | aborted⟩ := Store.transact_cases taken
      · obtain ⟨_, _, _, _, rfl, _⟩ := committed
        rfl
      · obtain ⟨_, _, _, rfl, _⟩ := aborted
        rfl
  | finish taken =>
      obtain ⟨flight, result, busy, _, rfl, _⟩ := Store.finish_cases taken
      obtain ⟨unjoined, writes⟩ := orderly.unjoined flight busy
      have livenessJoined := orderly.closes requested
      have ingestJoined := orderly.liveness livenessJoined
      rw [storeSeen_store, published_finished]
      refine announcements_recording fun envelope precondition asked => ?_
      rw [asked] at writes
      cases owner : flight.owner with
      | main => simp [owner, WriterTask.writes] at writes
      | ingest => simp [owner, World.joined, ingestJoined] at unjoined
      | liveness => simp [owner, World.joined, livenessJoined] at unjoined

end Step

/-! What one step of the connection reports. -/

section Conn

variable {view : View} {conn next : Conn} {label : ConnLabel}
variable {out : List ConnSeen}

theorem moves_judged (moves : Conn.Moves view conn label next out)
    (sent : sends (.conn label) = true) :
    out.filterMap liveFrame? = out.filterMap judged? := by
  cases moves with
  | @sent _ envelope receives found selected =>
      have judged : judged? (.dequeued envelope conn.subscriptions) =
          some (envelopeFrame envelope) := if_pos selected
      rw [List.filterMap_cons_some judged]
      rfl
  | unsent => cases sent
  | @filtered _ _ envelope receives found refused =>
      have judged : judged? (.dequeued envelope conn.subscriptions) = none :=
        if_neg (by simpa using refused)
      rw [List.filterMap_cons_none judged]
      rfl
  | @lagged _ _ _ _ _ _ _ _ report => cases report <;> rfl
  | @drained _ _ drain => cases drain <;> rfl
  | ended _ reason => cases reason <;> rfl
  | greeted | poked | drains | readClock | readSnapshot | emitted | unemitted
    | saidClose => rfl

theorem moves_live (moves : Conn.Moves view conn label next out) :
    out.filterMap eventFrame? =
      (out.filterMap liveFrame?).filterMap ServerMessage.event? := by
  cases moves with
  | @sent _ envelope => cases envelope <;> rfl
  | @lagged _ _ _ _ _ _ _ _ report => cases report <;> rfl
  | @drained _ _ drain => cases drain <;> rfl
  | ended _ reason => cases reason <;> rfl
  | unsent | filtered | greeted | poked | drains | readClock | readSnapshot
    | emitted | unemitted | saidClose => rfl

/-- The topics of a dequeue are those that the step started with. -/
theorem moves_active (moves : Conn.Moves view conn label next out)
    {seen : List ConnSeen} (topics : conn.subscriptions = active seen) :
    Trace.Each (fun past here => ∀ envelope chosen,
      here = .dequeued envelope chosen → chosen = active (seen ++ past)) out := by
  cases moves with
  | sent | unsent | filtered =>
      simp [Trace.each_cons, Trace.each_nil, topics]
  | @lagged _ _ _ _ _ _ _ _ report =>
      cases report <;>
        simp [Conn.droppedFrames, Trace.each_cons, Trace.each_nil]
  | @drained _ _ drain =>
      cases drain <;>
        simp [Conn.endDrain, Trace.each_cons, Trace.each_nil]
  | ended _ reason =>
      cases reason <;> simp [Trace.each_cons, Trace.each_nil]
  | greeted | poked | drains | readClock | readSnapshot | emitted | unemitted
    | saidClose =>
      simp [Conn.readSnapshot, Trace.each_cons, Trace.each_nil]

theorem moves_closed (moves : Conn.Moves view conn label next out)
    (closed : conn.phase = .closed) :
    next.phase = .closed ∧ next.next = conn.next ∧
      ∀ here ∈ out, takenBy here = [] ∧ isFrame here = false ∧
        isClose here = false ∧ here ≠ .drained := by
  cases moves with
  | ended _ reason =>
      cases reason <;> simp [takenBy, isFrame, isClose]
  | greeted other | poked _ other | drains _ other | drained other
    | readClock other | readSnapshot other | emitted other | unemitted other
    | saidClose other =>
      rw [closed] at other
      cases other
  | sent receives | unsent receives | filtered receives | lagged receives =>
      rw [closed] at receives
      cases receives

end Conn

/-! The phases of the connection and what each of them has behind it. -/

/-- The phases that a drain leads to, up to their next report. -/
def settles : Phase → Bool
  | .readingClock _ _ | .readingSnapshot _ _ _ | .closing => true
  | _ => false

def saidClose (seen : List ConnSeen) : Prop :=
  ∃ here ∈ seen, isClose here = true

structure Paced (world : World) (conn : Conn) (seen : List ConnSeen) :
    Prop where
  requested : conn.phase = .draining .shutdown ∨ conn.phase = .closing ∨
    saidClose seen → world.wsCloseRequested = true
  settled : settles conn.phase = true → seen.getLast? = some .drained
  caughtUp : conn.phase = .closing ∨ saidClose seen →
    world.store.hub.length ≤ conn.next
  closed : saidClose seen → conn.phase = .closed

section Paced

variable {config : WsConfig} {world : World} {conn next : Conn}
variable {label : ConnLabel} {seen out : List ConnSeen}

theorem not_saidClose_append (before : ¬ saidClose seen)
    (after : ∀ here ∈ out, isClose here = false) :
    ¬ saidClose (seen ++ out) := by
  intro said
  obtain ⟨here, member, close⟩ := said
  rcases List.mem_append.mp member with member | member
  · exact before ⟨here, member, close⟩
  · rw [after here member] at close
    cases close

theorem Paced.plain (fresh : ¬ saidClose seen)
    (silent : ∀ here ∈ out, isClose here = false)
    (unsettled : settles next.phase = false)
    (requested : next.phase = .draining .shutdown →
      world.wsCloseRequested = true) :
    Paced world next (seen ++ out) := by
  have stillFresh := not_saidClose_append fresh silent
  have open_ : next.phase ≠ .closing := by
    intro closing
    rw [closing] at unsettled
    cases unsettled
  exact {
    requested := by
      intro special
      rcases special with draining | closing | said
      · exact requested draining
      · exact absurd closing open_
      · exact absurd said stillFresh
    settled := by
      intro settled
      rw [unsettled] at settled
      cases settled
    caughtUp := by
      intro special
      rcases special with closing | said
      · exact absurd closing open_
      · exact absurd said stillFresh
    closed := fun said => absurd said stillFresh }

theorem receiving_unsettled {phase : Phase}
    (receives : Conn.receiving phase = true) : settles phase = false := by
  cases phase <;> first | rfl | cases receives

theorem Paced.step (paced : Paced world conn seen)
    (moves : Conn.Moves (world.view config) conn label next out) :
    Paced world next (seen ++ out) := by
  by_cases closed : conn.phase = .closed
  · obtain ⟨stays, same, silent⟩ := moves_closed moves closed
    have before : saidClose (seen ++ out) → saidClose seen := by
      intro said
      by_contra fresh
      exact not_saidClose_append fresh (fun here member =>
        (silent here member).2.2.1) said
    exact {
      requested := by
        intro special
        rw [stays] at special
        rcases special with draining | closing | said
        · cases draining
        · cases closing
        · exact paced.requested (.inr (.inr (before said)))
      settled := by
        intro settled
        rw [stays] at settled
        cases settled
      caughtUp := by
        intro special
        rw [stays] at special
        rcases special with closing | said
        · cases closing
        · rw [same]
          exact paced.caughtUp (.inr (before said))
      closed := fun _ => stays }
  · have fresh : ¬ saidClose seen := fun said => closed (paced.closed said)
    have kept : ∀ phase, phase = conn.phase ∨ phase = .closed →
        phase = .draining .shutdown → world.wsCloseRequested = true := by
      intro phase lives draining
      rcases lives with rfl | rfl
      · exact paced.requested (.inl draining)
      · cases draining
    cases moves with
    | greeted greeting =>
        exact .plain fresh (by simp [isClose]) rfl (fun other => nomatch other)
    | ended _ reason =>
        refine .plain fresh ?_ rfl (fun other => nomatch other)
        cases reason <;> simp [isClose]
    | poked _ main =>
        refine .plain fresh (by simp) (by simp [main, settles]) ?_
        exact kept _ (.inl rfl)
    | drains _ main requested =>
        refine .plain fresh (by simp) rfl fun shutdown => ?_
        exact requested (Phase.draining.inj shutdown)
    | @sent _ envelope receives =>
        refine .plain fresh ?_ ?_ ?_
        · cases envelope <;> simp [isClose, envelopeFrame]
        · rw [Conn.delivered_phase]
          exact receiving_unsettled receives
        · rw [Conn.delivered_phase]
          exact kept _ (.inl rfl)
    | unsent =>
        exact .plain fresh (by simp [isClose]) rfl (fun other => nomatch other)
    | filtered receives =>
        refine .plain fresh (by simp [isClose]) (receiving_unsettled receives) ?_
        exact kept _ (.inl rfl)
    | @lagged _ _ _ _ _ _ _ phase report receives behind cleared lives =>
        refine .plain fresh ?_ ?_ ?_
        · cases report <;> simp [isClose, Conn.droppedFrames]
        · rcases lives with rfl | ⟨rfl, _⟩
          · exact receiving_unsettled receives
          · rfl
        · exact kept phase (lives.imp id And.left)
    | @drained _ _ drain draining caughtUp =>
        cases drain with
        | subscribe topic states =>
            have stillFresh : ¬ saidClose (seen ++ [.drained]) :=
              not_saidClose_append fresh (by simp [isClose])
            exact {
              requested := by
                intro special
                rcases special with other | other | said
                · cases other
                · cases other
                · exact absurd said stillFresh
              settled := fun _ => List.getLast?_concat
              caughtUp := by
                intro special
                rcases special with other | said
                · cases other
                · exact absurd said stillFresh
              closed := fun said => absurd said stillFresh }
        | unsubscribe topic =>
            exact .plain fresh (by simp [Conn.endDrain, isClose]) rfl
              (fun other => nomatch other)
        | shutdown =>
            exact {
              requested := fun _ => paced.requested (.inl draining)
              settled := fun _ => List.getLast?_concat
              caughtUp := fun _ => caughtUp
              closed := fun said => absurd said
                (not_saidClose_append fresh (by simp [Conn.endDrain, isClose])) }
    | readClock reading =>
        rw [List.append_nil]
        exact {
          requested := by
            intro special
            rcases special with other | other | said
            · cases other
            · cases other
            · exact absurd said fresh
          settled := fun _ => paced.settled (by rw [reading]; rfl)
          caughtUp := by
            intro special
            rcases special with other | said
            · cases other
            · exact absurd said fresh
          closed := fun said => absurd said fresh }
    | @readSnapshot topic states nowMs read reading =>
        refine .plain fresh (by simp [Conn.readSnapshot, isClose]) ?_ ?_
        · simp only [Conn.readSnapshot]
          unfold Conn.afterBurst
          split <;> rfl
        · simp only [Conn.readSnapshot]
          unfold Conn.afterBurst
          split <;> exact fun other => nomatch other
    | emitted emitting =>
        refine .plain fresh (by simp [isClose]) ?_ ?_
        · simp only [Conn.afterBurst]
          split <;> rfl
        · simp only [Conn.afterBurst]
          split <;> exact fun other => nomatch other
    | unemitted emitting =>
        exact .plain fresh (by simp) rfl (fun other => nomatch other)
    | saidClose closing =>
        exact {
          requested := fun _ => paced.requested (.inr (.inl closing))
          settled := fun settled => nomatch settled
          caughtUp := fun _ => paced.caughtUp (.inl closing)
          closed := fun _ => rfl }

end Paced

/-! Drains and the Close frame come when they should. -/

def Timely (past : List WorldSeen) : WorldSeen → Prop
  | .store _ => True
  | .conn here =>
      (here = .drained → taken (connSeen past) = arrivals past) ∧
        (isClose here = true → (connSeen past).filterMap liveFrame? =
          (connSeen past).filterMap judged?) ∧
        (saidClose (connSeen past) → takenBy here = [] ∧ isFrame here = false)

section Timely

variable {config : WsConfig} {world : World} {conn next : Conn}
variable {label : ConnLabel} {seen : List WorldSeen} {out : List ConnSeen}

theorem timely_store (out : List (StoreSeen WriterTask)) :
    Trace.Each (fun past => Timely (seen ++ past))
      (out.map WorldSeen.store) := by
  intro early here late split
  have member : here ∈ out.map WorldSeen.store := by simp [split]
  obtain ⟨stored, _, rfl⟩ := List.mem_map.mp member
  trivial

theorem timely_plain (fresh : ¬ saidClose (connSeen seen))
    (plain : ∀ here ∈ out, here ≠ .drained ∧ isClose here = false) :
    Trace.Each (fun past => Timely (seen ++ past)) (out.map WorldSeen.conn) := by
  intro early here late split
  obtain ⟨front, tail, rfl, rfl, back⟩ := List.map_eq_append_iff.mp split
  obtain ⟨middle, rest, rfl, rfl, _⟩ := List.map_eq_cons_iff.mp back
  obtain ⟨undrained, unclosed⟩ := plain middle (by simp)
  refine ⟨fun drained => absurd drained undrained, fun close => ?_,
    fun said => ?_⟩
  · rw [unclosed] at close
    cases close
  · rw [connSeen_append, connSeen_conn] at said
    exact absurd said (not_saidClose_append fresh fun other member =>
      (plain other (List.mem_append_left _ member)).2)

theorem timely_step (follows : Follows world conn seen)
    (paced : Paced world conn (connSeen seen))
    (judged : (connSeen seen).filterMap liveFrame? =
      (connSeen seen).filterMap judged?)
    (moves : Conn.Moves (world.view config) conn label next out) :
    Trace.Each (fun past => Timely (seen ++ past)) (out.map WorldSeen.conn) := by
  by_cases closed : conn.phase = .closed
  · intro early here late split
    have member : here ∈ out.map WorldSeen.conn := by simp [split]
    obtain ⟨own, inside, rfl⟩ := List.mem_map.mp member
    obtain ⟨untaken, unframed, unclosed, undrained⟩ :=
      (moves_closed moves closed).2.2 own inside
    refine ⟨fun drained => absurd drained undrained, fun close => ?_,
      fun _ => ⟨untaken, unframed⟩⟩
    rw [unclosed] at close
    cases close
  · have fresh : ¬ saidClose (connSeen seen) :=
      fun said => closed (paced.closed said)
    cases moves with
    | @drained _ _ drain draining caughtUp =>
        have all : taken (connSeen seen) = arrivals seen := by
          have nothing : world.store.hub.drop conn.next = [] :=
            List.drop_eq_nil_of_le caughtUp
          rw [follows.arrivals, nothing, List.append_nil]
        cases drain with
        | subscribe | shutdown =>
            simp [Conn.endDrain, Trace.each_cons, Trace.each_nil, Timely, all,
              isClose, fresh]
        | unsubscribe topic =>
            have later : ¬ saidClose (connSeen seen ++ [.drained]) :=
              not_saidClose_append fresh (by simp [isClose])
            have own : connSeen [.conn .drained] = [.drained] := rfl
            simp [Conn.endDrain, Trace.each_cons, Trace.each_nil, Timely, all,
              isClose, fresh, own, later]
    | saidClose closing =>
        simp [Trace.each_cons, Trace.each_nil, Timely, isClose, fresh, judged,
          takenBy, isFrame]
    | @sent _ envelope =>
        refine timely_plain fresh ?_
        cases envelope <;> simp [isClose, envelopeFrame]
    | @lagged _ _ _ _ _ _ _ _ report =>
        refine timely_plain fresh ?_
        cases report <;> simp [isClose, Conn.droppedFrames]
    | ended _ reason =>
        refine timely_plain fresh ?_
        cases reason <;> simp [isClose]
    | greeted | poked | drains | unsent | filtered | readClock | readSnapshot
      | emitted | unemitted =>
        exact timely_plain fresh (by simp [isClose, Conn.readSnapshot])

/-- A topic changes in the step that ends a drain, or in the one after it. -/
theorem changes_step (paced : Paced world conn (connSeen seen))
    (moves : Conn.Moves (world.view config) conn label next out) :
    Trace.Each (fun past here => isChange here = true →
      (connSeen seen ++ past).getLast? = some .drained) out := by
  cases moves with
  | readSnapshot reading =>
      have settled := paced.settled (by rw [reading]; rfl)
      simp [Conn.readSnapshot, Trace.each_cons, Trace.each_nil, settled]
  | @drained _ _ drain =>
      cases drain <;>
        simp [Conn.endDrain, Trace.each_cons, Trace.each_nil, isChange]
  | @lagged _ _ _ _ _ _ _ _ report =>
      cases report <;>
        simp [Conn.droppedFrames, Trace.each_cons, Trace.each_nil, isChange]
  | ended _ reason =>
      cases reason <;> simp [Trace.each_cons, Trace.each_nil, isChange]
  | sent | unsent | filtered | greeted | poked | drains | readClock | emitted
    | unemitted | saidClose =>
      simp [Trace.each_cons, Trace.each_nil, isChange]

end Timely

/-- What holds of the connection and of its trace in every state. -/
structure Delivering (world : World) (seen : List WorldSeen) : Prop where
  orderly : Orderly world
  connected : Connected world seen
  paced : ∀ conn, world.conn = some conn → Paced world conn (connSeen seen)
  judged : (connSeen seen).filterMap liveFrame? =
    (connSeen seen).filterMap judged?
  live : (connSeen seen).filterMap eventFrame? =
    ((connSeen seen).filterMap liveFrame?).filterMap ServerMessage.event?
  active : Trace.Each (fun past here => ∀ envelope topics,
    here = .dequeued envelope topics → topics = active past) (connSeen seen)
  changes : Trace.Each (fun past here => isChange here = true →
    past.getLast? = some .drained) (connSeen seen)
  timely : Trace.Each Timely seen

section Run

variable {config : WsConfig} {world next final : World} {label : WorldLabel}
variable {seen out : List WorldSeen}

theorem Paced.elsewhere {conn : Conn} (orderly : Orderly world)
    (paced : Paced world conn (connSeen seen))
    (moves : World.Moves config world label next out) :
    Paced next conn (connSeen seen) := by
  have stays : world.wsCloseRequested = true → next.wsCloseRequested = true := by
    cases moves with
    | flagged ingest liveness closes kept => exact kept.2.2
    | clock | begin | transact | finish | upgraded | conn => exact id
  exact {
    requested := fun special => stays (paced.requested special)
    settled := paced.settled
    caughtUp := by
      intro special
      have requested := paced.requested (.inr special)
      rw [moves_hub moves, orderly.silent requested moves, List.append_nil]
      exact paced.caughtUp special
    closed := paced.closed }

theorem Delivering.step (delivering : Delivering world seen)
    (sent : sends label = true)
    (moves : World.Moves config world label next out) :
    Delivering next (seen ++ out) := by
  have orderly := delivering.orderly.step moves
  have connected := delivering.connected.step moves
  -- a step elsewhere reports nothing of the connection
  have quiet : next.conn = world.conn →
      (∃ stored : List (StoreSeen WriterTask),
        out = stored.map WorldSeen.store) →
      Delivering next (seen ++ out) := by
    intro same stored
    obtain ⟨stored, rfl⟩ := stored
    have silent : connSeen (seen ++ stored.map .store) = connSeen seen := by
      simp
    exact {
      orderly
      connected
      paced := by
        intro conn present
        rw [silent]
        exact Paced.elsewhere delivering.orderly
          (delivering.paced conn (same ▸ present)) moves
      judged := by
        rw [silent]
        exact delivering.judged
      live := by
        rw [silent]
        exact delivering.live
      active := by
        rw [silent]
        exact delivering.active
      changes := by
        rw [silent]
        exact delivering.changes
      timely := delivering.timely.append (timely_store stored) }
  cases moves with
  | clock | flagged => exact quiet rfl ⟨[], rfl⟩
  | begin | transact | finish => exact quiet rfl ⟨_, rfl⟩
  | @upgraded hello absent =>
      have nothing : connSeen seen = [] := by
        have connected := delivering.connected
        unfold Connected at connected
        rw [absent] at connected
        exact connected
      have first : connSeen (seen ++ [.conn .upgraded]) = [.upgraded] := by
        rw [connSeen_append, nothing]
        rfl
      exact {
        orderly
        connected
        paced := by
          intro conn present
          cases present
          rw [first]
          exact {
            requested := by
              intro special
              rcases special with other | other | said
              · cases other
              · cases other
              · simp [saidClose, isClose] at said
            settled := fun settled => nomatch settled
            caughtUp := by
              intro special
              rcases special with other | said
              · cases other
              · simp [saidClose, isClose] at said
            closed := by
              intro said
              simp [saidClose, isClose] at said }
        judged := by
          rw [first]
          rfl
        live := by
          rw [first]
          rfl
        active := by
          rw [first]
          simp [Trace.each_cons, Trace.each_nil]
        changes := by
          rw [first]
          simp [Trace.each_cons, Trace.each_nil, isChange]
        timely := by
          refine delivering.timely.append ?_
          simp [Trace.each_cons, Trace.each_nil, Timely, isClose, nothing,
            saidClose] }
  | @conn label conn after moved present moves =>
      have follows : Follows world conn seen := by
        have connected := delivering.connected
        unfold Connected at connected
        rw [present] at connected
        exact connected
      have paced := delivering.paced conn present
      have own : connSeen (seen ++ moved.map .conn) = connSeen seen ++ moved := by
        rw [connSeen_append, connSeen_conn]
      exact {
        orderly
        connected
        paced := by
          intro conn later
          cases later
          rw [own]
          obtain ⟨requested, settled, caughtUp, closed⟩ := paced.step moves
          exact ⟨requested, settled, caughtUp, closed⟩
        judged := by
          rw [own, List.filterMap_append, List.filterMap_append,
            delivering.judged, moves_judged moves sent]
        live := by
          rw [own, List.filterMap_append, List.filterMap_append,
            List.filterMap_append, delivering.live, moves_live moves]
        active := by
          rw [own]
          exact delivering.active.append (moves_active moves follows.topics)
        changes := by
          rw [own]
          exact delivering.changes.append (changes_step paced moves)
        timely := delivering.timely.append
          (timely_step follows paced delivering.judged moves) }

theorem delivering_of_run {db : Db} {hub : List BroadcastEnvelope}
    {clock : Nat}
    (run : (World.machine config).Run (fun _ label => sends label = true)
      (World.initial db hub clock) final seen) :
    Delivering final seen := by
  refine run.invariant Delivering ?_ ?_
  · exact {
      orderly := orderly_initial db hub clock
      connected := rfl
      paced := by
        intro conn present
        cases present
      judged := rfl
      live := rfl
      active := Trace.each_nil
      changes := Trace.each_nil
      timely := Trace.each_nil }
  · intro middle next seen out label _ delivering sent taken
    exact delivering.step sent (World.step_moves taken)

/-! The events of the frames are among those published, in their order. -/

theorem judged_sublist (seen : List ConnSeen) :
    ((seen.filterMap judged?).filterMap ServerMessage.event?).Sublist
      ((taken seen).filterMap BroadcastEnvelope.event?) := by
  induction seen with
  | nil => exact .slnil
  | cons here rest induction =>
      rw [show here :: rest = [here] ++ rest from rfl, taken_append,
        List.filterMap_append, List.filterMap_append, List.filterMap_append]
      refine List.Sublist.append ?_ induction
      cases here with
      | dequeued envelope topics =>
          by_cases selected : topics.any (·.matches envelope) = true
          · have judged : judged? (.dequeued envelope topics) =
                some (envelopeFrame envelope) := if_pos selected
            rw [List.filterMap_cons_some judged]
            cases envelope <;> exact List.Sublist.refl _
          · have judged : judged? (.dequeued envelope topics) = none :=
              if_neg selected
            rw [List.filterMap_cons_none judged]
            exact List.nil_sublist _
      | upgraded | frame | lagged | drained | subscribed | unsubscribed
        | wsClose => exact List.nil_sublist _

theorem arrivals_suffix (seen : List WorldSeen) :
    arrivals seen <:+ published (storeSeen seen) := by
  induction seen with
  | nil => exact List.suffix_refl _
  | cons here rest induction =>
      cases here with
      | store stored =>
          rw [show WorldSeen.store stored :: rest =
            [WorldSeen.store stored] ++ rest from rfl, storeSeen_append,
            published_append]
          exact induction.trans (List.suffix_append _ _)
      | conn own =>
          cases own with
          | upgraded => exact List.suffix_refl _
          | frame | dequeued | lagged | drained | subscribed | unsubscribed
            | wsClose => exact induction

theorem arrivals_ascending {db : Db} {hub : List BroadcastEnvelope} {clock : Nat}
    {ok : World → WorldLabel → Prop} (wellFormed : db.WellFormed)
    (run : (World.machine config).Run ok (World.initial db hub clock) final
      seen) :
    ((arrivals seen).filterMap BroadcastEnvelope.event?).Pairwise
      fun first second => first.eventId < second.eventId := by
  have ledger := World.ledger run wellFormed rfl
  refine (ledger.publishesAfterCommit wellFormed).ascending.sublist ?_
  refine List.Sublist.filterMap _ ?_
  exact (arrivals_suffix seen).sublist.trans (List.sublist_append_left _ _)

/-- The change comes after a drain that left nothing unread, with no report of
the connection in between. -/
theorem Delivering.drained (delivering : Delivering world seen)
    {early late : List WorldSeen} {change : ConnSeen}
    (split : seen = early ++ .conn change :: late)
    (changing : isChange change = true) :
    ∃ before after, early = before ++ .conn .drained :: after ∧
      connSeen after = [] ∧ taken (connSeen before) = arrivals before := by
  have own : connSeen seen = connSeen early ++ change :: connSeen late := by
    rw [split, connSeen_append]
    rfl
  have last := delivering.changes _ _ _ own changing
  obtain ⟨before, here, after, rfl, conn, nothing⟩ := Trace.latest_split last
  have drained : here = .conn .drained := by
    cases here with
    | store stored => cases conn
    | conn seen =>
        cases conn
        rfl
  subst drained
  refine ⟨before, after, rfl, nothing, ?_⟩
  have timely := delivering.timely before (.conn .drained)
    (after ++ .conn change :: late) (by simp [split])
  exact timely.1 rfl

theorem Delivering.closes (delivering : Delivering world seen)
    {early late : List WorldSeen} {close : ConnSeen}
    (split : seen = early ++ .conn close :: late)
    (closing : isClose close = true) :
    taken (connSeen early) = arrivals seen ∧
      (connSeen early).filterMap liveFrame? =
        (connSeen early).filterMap judged? ∧
      ∀ other ∈ connSeen late, isFrame other = false := by
  have own : connSeen seen = connSeen early ++ close :: connSeen late := by
    rw [split, connSeen_append]
    rfl
  have said : saidClose (connSeen seen) := ⟨close, by simp [own], closing⟩
  have quiet : ∀ other ∈ late, ∀ here, other = .conn here →
      takenBy here = [] ∧ isFrame here = false := by
    have each : Trace.Each (fun past other =>
        (∃ mark ∈ past, ∃ close, mark = .conn close ∧ isClose close = true) →
          ∀ here, other = .conn here →
            takenBy here = [] ∧ isFrame here = false) seen := by
      refine delivering.timely.mono fun past other timely marked here same => ?_
      subst same
      obtain ⟨mark, member, close, rfl, closing⟩ := marked
      have inside : close ∈ connSeen past :=
        List.mem_filterMap.mpr ⟨_, member, rfl⟩
      exact timely.2.2 ⟨close, inside, closing⟩
    exact each.after split ⟨close, rfl, closing⟩
  have late_ : ∀ here ∈ connSeen late, takenBy here = [] ∧ isFrame here = false := by
    intro here member
    obtain ⟨other, inside, conn⟩ := List.mem_filterMap.mp member
    refine quiet other inside here ?_
    cases other with
    | store stored => cases conn
    | conn seen =>
        cases conn
        rfl
  refine ⟨?_, (delivering.timely early _ late split).2.1 closing,
    fun here member => (late_ here member).2⟩
  have nothing : taken (connSeen late) = [] :=
    List.flatMap_eq_nil_iff.mpr fun here member => (late_ here member).1
  have whole : taken (connSeen seen) = taken (connSeen early) := by
    have here : takenBy close = [] := by
      cases close <;> first | rfl | cases closing
    rw [own, taken_append, show close :: connSeen late =
      [close] ++ connSeen late from rfl, taken_append, nothing]
    simp [taken, here]
  have connected := delivering.connected
  unfold Connected at connected
  cases present : world.conn with
  | none =>
      rw [present] at connected
      rw [own] at connected
      simp at connected
  | some conn =>
      rw [present] at connected
      have caughtUp := (delivering.paced conn present).caughtUp (.inr said)
      have unread : world.store.hub.drop conn.next = [] :=
        List.drop_eq_nil_of_le caughtUp
      rw [← whole, connected.arrivals, unread, List.append_nil]

end Run

theorem delivers_once {config : WsConfig} {db : Db}
    {hub : List BroadcastEnvelope} {clock : Nat} {final : World}
    {seen : List WorldSeen}
    (run : (World.machine config).Run (fun _ label => sends label = true)
      (World.initial db hub clock) final seen)
    (wellFormed : db.WellFormed) : DeliversOnce seen := by
  have delivering := delivering_of_run run
  have unread := delivering.connected.unread
  exact {
    ascending := by
      obtain ⟨rest, unread⟩ := unread
      have ascending := arrivals_ascending wellFormed run
      rw [unread, List.filterMap_append] at ascending
      rw [delivering.live, delivering.judged]
      exact (List.pairwise_append.mp ascending).1.sublist
        (judged_sublist (connSeen seen))
    live := delivering.live
    judged := delivering.judged
    active := delivering.active
    taken := unread
    changes := fun _ _ _ => delivering.drained
    closes := fun _ _ _ => delivering.closes }

/-- The connection opens, subscribes to a topic, and sits in its main loop. -/
def opening (topic : String) (states : List String) : List WorldLabel :=
  [.computeHello true, .upgrade, .conn (.greet true),
    .conn (.inbound (.text (some (.subscribe topic states)))),
    .conn (.receive 0 true), .conn (.readClock true),
    .conn (.readSnapshot true)]

def writing (owner : WriterTask) (envelope : EventEnvelope) : List WorldLabel :=
  [.begin owner (.event envelope none), .transact FaultPlan.none, .finish]

/-- One event before an unsubscribe, one after it, and a graceful shutdown. -/
def twoEventsShutdown : List WorldLabel :=
  opening "events.*" [] ++
    writing .ingest (System.bareHook "a" .preToolUse none) ++
    [.conn (.inbound (.text (some (.unsubscribe "events.*")))),
      .conn (.receive 0 true), .conn (.receive 0 true),
      .conn (.receive 0 true)] ++
    writing .liveness (System.bareHook "a" .stop none) ++
    [.requestShutdown, .joinIngestWriter, .joinLiveness, .requestWsClose,
      .conn .closeRequested, .conn (.receive 0 true), .conn (.receive 0 true),
      .conn (.receive 0 true), .conn (.close true)]

def smallConfig : WsConfig :=
  { capacity := 2, coalesceWindow := 10, daemonVersion := "1", startedAtMs := 0 }

theorem delivers_once_twoEventsShutdown :
    ∃ seen : List WorldSeen,
      ((arrivals seen).length = 4 ∧
        ((connSeen seen).filterMap eventFrame?).length = 1 ∧
        (connSeen seen).any isClose = true) ∧
      DeliversOnce seen := by
  have meets : (World.machine smallConfig).execMeets
      (fun _ label => sends label = true) (World.initial Db.empty [] 0)
      twoEventsShutdown := by
    decide
  have ⟨final, seen, run, checked⟩ := Machine.exec_check meets
    (fun result : World × List WorldSeen =>
      decide ((arrivals result.2).length = 4 ∧
        ((connSeen result.2).filterMap eventFrame?).length = 1 ∧
        (connSeen result.2).any isClose = true))
    (by decide)
  exact ⟨seen, of_decide_eq_true checked,
    delivers_once run Db.wellFormed_empty⟩

end Bowerbird.Daemon
