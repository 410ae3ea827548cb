import Bowerbird.Daemon.World
import Bowerbird.Foundation.Trace

namespace Bowerbird.Daemon

open Protocol Foundation Projection Api

/-! The connection against the channel: what it has taken, what is still to come,
and the topics that are active at each moment. -/

def takenBy : ConnSeen → List BroadcastEnvelope
  | .dequeued envelope _ => [envelope]
  | .lagged lost _ => lost
  | _ => []

/-- The envelopes that the receiver has moved past, whether it got them or not. -/
def taken (seen : List ConnSeen) : List BroadcastEnvelope :=
  seen.flatMap takenBy

def changeTopics (topics : List Topic) : ConnSeen → List Topic
  | .subscribed topic _ => topics.insert topic
  | .unsubscribed topic => topics.filter (· ≠ topic)
  | _ => topics

/-- The topics subscribed to and not unsubscribed from since. -/
def active (seen : List ConnSeen) : List Topic :=
  seen.foldl changeTopics []

/-- The envelopes published since the upgrade. -/
def arrivals : List WorldSeen → List BroadcastEnvelope
  | [] => []
  | .conn .upgraded :: rest => published (storeSeen rest)
  | _ :: rest => arrivals rest

section Trace

variable (seen later : List ConnSeen)

@[simp] theorem taken_append :
    taken (seen ++ later) = taken seen ++ taken later := by
  simp [taken]

@[simp] theorem active_append :
    active (seen ++ later) = later.foldl changeTopics (active seen) := by
  simp [active]

theorem arrivals_append {seen : List WorldSeen}
    (upgraded : .conn .upgraded ∈ seen) (out : List WorldSeen) :
    arrivals (seen ++ out) = arrivals seen ++ published (storeSeen out) := by
  induction seen with
  | nil => cases upgraded
  | cons here rest induction =>
      cases here with
      | store seen =>
          have later : .conn .upgraded ∈ rest := by simpa using upgraded
          exact induction later
      | conn seen =>
          cases seen with
          | upgraded => simp [arrivals]
          | frame | dequeued | lagged | drained | subscribed | unsubscribed
            | wsClose =>
              have later : .conn .upgraded ∈ rest := by simpa using upgraded
              exact induction later

theorem arrivals_upgraded {seen : List WorldSeen} (silent : connSeen seen = []) :
    arrivals (seen ++ [.conn .upgraded]) = [] := by
  induction seen with
  | nil => rfl
  | cons here rest induction =>
      cases here with
      | store seen => exact induction (by simpa [connSeen, WorldSeen.conn?] using silent)
      | conn seen => simp [connSeen, WorldSeen.conn?] at silent

end Trace

section Conn

variable {view : View} {conn next : Conn} {label : ConnLabel}
variable {out : List ConnSeen}

/-- What was still to come is taken by the step or still to come. -/
theorem moves_takes (moves : Conn.Moves view conn label next out)
    (within : conn.next ≤ view.hub.length) :
    view.hub.drop conn.next = taken out ++ view.hub.drop next.next ∧
      next.next ≤ view.hub.length := by
  cases moves with
  | sent _ found _ =>
      rw [Conn.delivered_next]
      exact ⟨Broadcast.drop_of_getElem? found,
        Broadcast.lt_length_of_getElem? found⟩
  | unsent _ found _ | filtered _ found _ =>
      exact ⟨Broadcast.drop_of_getElem? found,
        Broadcast.lt_length_of_getElem? found⟩
  | @lagged _ n _ _ _ _ _ _ report _ behind _ _ _ =>
      refine ⟨?_, (Broadcast.receive_lagged behind).2.2⟩
      have silent : taken (Conn.droppedFrames report) = [] := by
        cases report <;> rfl
      have moved : taken (.lagged (Broadcast.skipped view.hub conn.next n)
          conn.subscriptions :: Conn.droppedFrames report) =
          Broadcast.skipped view.hub conn.next n := by
        rw [← List.singleton_append, taken_append, silent]
        simp [taken, takenBy]
      rw [moved]
      exact (Broadcast.skipped_append_drop _ _ _).symm
  | drained =>
      rename_i drain _ _
      rw [Conn.endDrain_next]
      cases drain <;> exact ⟨rfl, within⟩
  | ended _ reason => cases reason <;> exact ⟨rfl, within⟩
  | greeted | poked | drains | readClock | readSnapshot | emitted | unemitted
    | saidClose => exact ⟨rfl, within⟩

theorem moves_topics (moves : Conn.Moves view conn label next out) :
    next.subscriptions = out.foldl changeTopics conn.subscriptions := by
  cases moves with
  | sent => exact Conn.delivered_subscriptions _ _
  | @lagged _ _ _ _ _ _ _ _ report => cases report <;> rfl
  | drained =>
      rename_i drain _ _
      cases drain <;> rfl
  | ended _ reason => cases reason <;> rfl
  | greeted | poked | drains | unsent | filtered | readClock | readSnapshot
    | emitted | unemitted | saidClose => rfl

theorem topics_kept {topic : Topic} {topics : List Topic}
    (member : topic ∈ topics) (kept : .unsubscribed topic ∉ out) :
    topic ∈ out.foldl changeTopics topics := by
  induction out generalizing topics with
  | nil => exact member
  | cons here rest induction =>
      rw [List.mem_cons, not_or] at kept
      refine induction ?_ kept.2
      cases here with
      | subscribed other states => exact List.mem_insert_of_mem member
      | unsubscribed other =>
          refine List.mem_filter.mpr ⟨member, ?_⟩
          rw [decide_eq_true_eq]
          intro same
          subst same
          exact kept.1 rfl
      | upgraded | frame | dequeued | lagged | drained | wsClose => exact member

end Conn

structure Follows (world : World) (conn : Conn) (seen : List WorldSeen) :
    Prop where
  upgraded : .conn .upgraded ∈ seen
  arrivals : arrivals seen =
    taken (connSeen seen) ++ world.store.hub.drop conn.next
  within : conn.next ≤ world.store.hub.length
  topics : conn.subscriptions = active (connSeen seen)

/-- Before the upgrade there is nothing to say of the connection. -/
def Connected (world : World) (seen : List WorldSeen) : Prop :=
  match world.conn with
  | none => connSeen seen = []
  | some conn => Follows world conn seen

/-- A step of the store only adds to the channel what it publishes. -/
theorem hub_moves {store next : Store WriterTask}
    {seen : List (StoreSeen WriterTask)}
    (run : (Store.machine WriterTask).Run (fun _ _ => True) store next seen) :
    next.hub = store.hub ++ published seen := by
  refine run.invariant (fun next seen => next.hub = store.hub ++ published seen)
    (by simp) ?_
  intro middle next seen out label _ before _ taken
  cases label with
  | begin owner request nowMs =>
      obtain ⟨_, _, rfl, rfl⟩ := Store.begin_cases taken
      simpa using before
  | transact faults =>
      obtain ⟨flight, _, _, committed | aborted⟩ := Store.transact_cases taken
      · obtain ⟨result, db, _, _, rfl, rfl⟩ := committed
        simpa using before
      · obtain ⟨result, _, _, rfl, rfl⟩ := aborted
        simpa using before
  | finish =>
      obtain ⟨flight, result, _, _, rfl, rfl⟩ := Store.finish_cases taken
      simp [before]

/-- What a step does, seen from the channel. -/
theorem moves_hub {config : WsConfig} {world next : World}
    {label : WorldLabel} {out : List WorldSeen}
    (moves : World.Moves config world label next out) :
    next.store.hub = world.store.hub ++ published (storeSeen out) :=
  hub_moves (World.step_store moves)

theorem Follows.elsewhere {config : WsConfig} {world next : World} {conn : Conn}
    {label : WorldLabel} {seen out : List WorldSeen}
    (follows : Follows world conn seen)
    (moves : World.Moves config world label next out)
    (silent : connSeen out = []) : Follows next conn (seen ++ out) where
  upgraded := List.mem_append_left _ follows.upgraded
  arrivals := by
    rw [arrivals_append follows.upgraded, follows.arrivals, connSeen_append,
      silent, moves_hub moves, List.drop_append_of_le_length follows.within]
    simp
  within := by
    rw [moves_hub moves, List.length_append]
    exact Nat.le_add_right_of_le follows.within
  topics := by simpa [silent] using follows.topics

theorem Connected.step {config : WsConfig} {world next : World}
    {label : WorldLabel} {seen out : List WorldSeen}
    (connected : Connected world seen)
    (moves : World.Moves config world label next out) :
    Connected next (seen ++ out) := by
  have quiet : next.conn = world.conn → connSeen out = [] →
      Connected next (seen ++ out) := by
    intro same silent
    unfold Connected at connected ⊢
    rw [same]
    cases present : world.conn with
    | none =>
        rw [present] at connected
        simp only at connected ⊢
        rw [connSeen_append, connected, silent]
        rfl
    | some conn =>
        rw [present] at connected
        exact Follows.elsewhere connected moves silent
  cases moves with
  | clock | begin | transact | finish | flagged => exact quiet rfl (by simp)
  | upgraded absent =>
      unfold Connected at connected
      rw [absent] at connected
      exact {
        upgraded := by simp
        arrivals := by
          rw [arrivals_upgraded connected, connSeen_append, connected]
          simp [Conn.upgraded, connSeen, WorldSeen.conn?, taken, takenBy]
        within := le_refl _
        topics := by
          rw [connSeen_append, connected]
          rfl }
  | @conn label conn after moved present moves =>
      unfold Connected at connected
      rw [present] at connected
      obtain ⟨takes, within⟩ := moves_takes moves connected.within
      exact {
        upgraded := List.mem_append_left _ connected.upgraded
        arrivals := by
          have unread : world.store.hub.drop conn.next =
              taken moved ++ world.store.hub.drop after.next := takes
          rw [arrivals_append connected.upgraded, connected.arrivals,
            connSeen_append, connSeen_conn, storeSeen_conn, taken_append, unread]
          simp
        within := within
        topics := by
          rw [connSeen_append, connSeen_conn, active_append, moves_topics moves,
            connected.topics] }

/-- What has arrived is what the receiver has moved past, and what it has not. -/
theorem Connected.unread {world : World} {seen : List WorldSeen}
    (connected : Connected world seen) :
    ∃ unread, arrivals seen = taken (connSeen seen) ++ unread := by
  unfold Connected at connected
  cases present : world.conn with
  | none =>
      rw [present] at connected
      rw [connected]
      exact ⟨arrivals seen, rfl⟩
  | some conn =>
      rw [present] at connected
      exact ⟨_, connected.arrivals⟩

theorem connected_of_run {config : WsConfig}
    {ok : World → WorldLabel → Prop} {db : Db} {hub : List BroadcastEnvelope}
    {clock : Nat} {final : World} {seen : List WorldSeen}
    (run : (World.machine config).Run ok (World.initial db hub clock) final
      seen) :
    Connected final seen :=
  run.invariant Connected rfl fun _ connected _ taken =>
    connected.step (World.step_moves taken)

end Bowerbird.Daemon
