import Bowerbird.Daemon.Mirror

namespace Bowerbird.Daemon

open Protocol Foundation Projection Api

/-! Which sessions a connection holds current.  The client can tell from what it
has been sent: a state frame makes the session current, and it stays current as
long as an active topic covers it and nothing is lost. -/

def stateKey? : ConnSeen → Option SessionKey
  | .frame (.state frame) _ => some frame.key
  | _ => none

def snapshotKey? : ConnSeen → Option SessionKey
  | .frame (.state frame) (.snapshot _ _) => some frame.key
  | _ => none

def liveKey? : ConnSeen → Option SessionKey
  | .frame (.state frame) .live => some frame.key
  | _ => none

def isUnsubscribe : ConnSeen → Bool
  | .unsubscribed _ => true
  | _ => false

/-- Some topic that is active at the end of `seen` covers the session. -/
def ActiveCovers (key : SessionKey) (seen : List ConnSeen) : Prop :=
  (active seen).any (·.coversStateSession key.sessionId) = true

/-- The session is covered, and the last thing seen is not a lag. -/
def Keeps (key : SessionKey) (seen : List ConnSeen) : Prop :=
  ActiveCovers key seen ∧ ∀ here ∈ seen.getLast?, isLag here = false

def HeldCurrent (key : SessionKey) : List ConnSeen → Prop :=
  Trace.Stands (stateKey? · = some key) (Keeps key)

/-- What leaves the coverage of every session as it is, or adds to it. -/
def quiet (here : ConnSeen) : Bool :=
  (stateKey? here).isNone && !isLag here && !isUnsubscribe here

section Held

variable {key : SessionKey} {seen out : List ConnSeen} {here : ConnSeen}

theorem activeCovers_snoc (stays : isUnsubscribe here = false)
    (covers : ActiveCovers key seen) : ActiveCovers key (seen ++ [here]) := by
  obtain ⟨topic, member, covering⟩ := List.any_eq_true.mp covers
  refine List.any_eq_true.mpr ⟨topic, ?_, covering⟩
  rw [active_append]
  refine topics_kept member fun unsubscribed => ?_
  rw [List.mem_singleton] at unsubscribed
  rw [← unsubscribed] at stays
  cases stays

theorem heldCurrent_snoc :
    HeldCurrent key (seen ++ [here]) ↔
      (ActiveCovers key (seen ++ [here]) ∧ isLag here = false) ∧
        (stateKey? here = some key ∨ HeldCurrent key seen) := by
  simp [HeldCurrent, Trace.stands_snoc, Keeps]

theorem heldCurrent_quiet_snoc (silent : quiet here = true) :
    HeldCurrent key (seen ++ [here]) ↔ HeldCurrent key seen := by
  simp only [quiet, Bool.and_eq_true, Option.isNone_iff_eq_none,
    Bool.not_eq_true'] at silent
  obtain ⟨⟨unshown, unlagged⟩, stays⟩ := silent
  rw [heldCurrent_snoc, unshown]
  constructor
  · intro held
    exact held.2.resolve_left (by simp)
  · intro held
    exact ⟨⟨activeCovers_snoc stays held.now.1, unlagged⟩, .inr held⟩

theorem heldCurrent_quiet (silent : ∀ here ∈ out, quiet here = true) :
    HeldCurrent key (seen ++ out) ↔ HeldCurrent key seen := by
  induction out generalizing seen with
  | nil => rw [List.append_nil]
  | cons here rest induction =>
      rw [List.append_cons, induction fun other member =>
          silent other (List.mem_cons_of_mem _ member),
        heldCurrent_quiet_snoc (silent here (List.mem_cons_self ..))]

/-- A session that is current stays so while it is covered and nothing lags. -/
theorem HeldCurrent.kept (held : HeldCurrent key seen)
    (lossless : ∀ other ∈ out, isLag other = false)
    (covers : ∀ front, front <+: out → ActiveCovers key (seen ++ front)) :
    HeldCurrent key (seen ++ out) := by
  induction out generalizing seen with
  | nil =>
      rw [List.append_nil]
      exact held
  | cons here rest induction =>
      have first := covers [here] (List.prefix_append [here] rest)
      have unlagged := lossless here (List.mem_cons_self ..)
      rw [List.append_cons]
      refine induction (heldCurrent_snoc.mpr ⟨⟨first, unlagged⟩, .inr held⟩)
        (fun other member => lossless other (List.mem_cons_of_mem _ member))
        fun front within => ?_
      rw [← List.append_cons]
      exact covers (here :: front) (List.cons_prefix_cons.mpr ⟨rfl, within⟩)

/-- One that is not stays so until it is shown. -/
theorem heldCurrent_unshown (unheld : ¬ HeldCurrent key seen)
    (unshown : ∀ here ∈ out, stateKey? here ≠ some key) :
    ¬ HeldCurrent key (seen ++ out) := by
  induction out generalizing seen with
  | nil =>
      rw [List.append_nil]
      exact unheld
  | cons here rest induction =>
      rw [List.append_cons]
      refine induction (fun held => ?_)
        fun other member => unshown other (List.mem_cons_of_mem _ member)
      rcases (heldCurrent_snoc.mp held).2 with shown | held
      · exact unshown here (List.mem_cons_self ..) shown
      · exact unheld held

theorem stateKey_snapshot (shown : snapshotKey? here = some key) :
    stateKey? here = some key ∧ isLag here = false := by
  unfold snapshotKey? at shown
  split at shown
  · exact ⟨shown, rfl⟩
  · cases shown

end Held

/-- The set that the connection keeps, against what the client has been sent.
The frames left of a burst are of sessions that are covered and not yet held. -/
structure Tallies (conn : Conn) (seen : List ConnSeen) : Prop where
  topics : conn.subscriptions = active seen
  covered : ∀ key ∈ conn.snapshottedKeys, Covered key conn
  held : conn.phase ≠ .closed →
    ∀ key, key ∈ conn.snapshottedKeys ↔ HeldCurrent key seen
  fresh : ∀ frame ∈ conn.burst,
    frame.key ∉ conn.snapshottedKeys ∧ Covered frame.key conn
  distinct : (conn.burst.map StateFrame.key).Nodup

section Step

variable {key : SessionKey} {view : View} {conn next : Conn}
variable {label : ConnLabel} {seen out : List ConnSeen}

theorem Tallies.activeCovers (tallies : Tallies conn seen) :
    ActiveCovers key seen ↔ Covered key conn := by
  rw [ActiveCovers, Covered, tallies.topics]

/-- A step that neither shows a session nor ends a coverage. -/
theorem Tallies.aside (tallies : Tallies conn seen)
    (open_ : next.phase ≠ .closed → conn.phase ≠ .closed)
    (topics : next.subscriptions = out.foldl changeTopics conn.subscriptions)
    (same : next.subscriptions = conn.subscriptions)
    (keys : next.snapshottedKeys = conn.snapshottedKeys)
    (burst : next.burst = conn.burst ∨ next.burst = [])
    (silent : ∀ here ∈ out, quiet here = true) : Tallies next (seen ++ out) where
  topics := by rw [topics, tallies.topics, active_append]
  covered := by
    rw [keys]
    simpa only [Covered, same] using tallies.covered
  held := by
    intro running key
    rw [keys, heldCurrent_quiet silent]
    exact tallies.held (open_ running) key
  fresh := by
    rcases burst with burst | burst
    · rw [burst, keys]
      simpa only [Covered, same] using tallies.fresh
    · simp [burst]
  distinct := by
    rcases burst with burst | burst
    · rw [burst]
      exact tallies.distinct
    · simp [burst]

theorem burst_receiving (receives : Conn.receiving conn.phase = true) :
    conn.burst = [] := by
  unfold Conn.burst
  split
  · rename_i emitting
    rw [emitting] at receives
    cases receives
  · rfl

theorem burst_afterBurst {nowMs asOf : Int} {frames : List StateFrame}
    (phase : conn.phase = Conn.afterBurst nowMs asOf frames) :
    conn.burst = frames := by
  unfold Conn.burst
  rw [phase]
  cases frames <;> rfl

/-- A session is shown: by a live frame, or as the head of a burst. -/
theorem Tallies.shown (tallies : Tallies conn seen)
    (running : conn.phase ≠ .closed)
    {frame : StateFrame} {origin : Origin} {key : SessionKey}
    (key_eq : frame.key = key)
    (keys : next.snapshottedKeys = conn.snapshottedKeys.insert key)
    (topics : next.subscriptions = conn.subscriptions)
    (covers : Covered key conn)
    (burst : ∀ other ∈ next.burst, other ∈ conn.burst ∧ other.key ≠ key)
    (distinct : (next.burst.map StateFrame.key).Nodup) :
    Tallies next (seen ++ [.frame (.state frame) origin]) where
  topics := by
    rw [topics, tallies.topics, active_append]
    rfl
  covered := by
    intro other member
    rw [keys, List.mem_insert_iff] at member
    rw [Covered, topics]
    rcases member with rfl | member
    · exact covers
    · exact tallies.covered other member
  held := by
    intro _ other
    have covered : other = key ∨ HeldCurrent other seen →
        ActiveCovers other (seen ++ [.frame (.state frame) origin]) := by
      intro known
      refine activeCovers_snoc rfl ?_
      rcases known with rfl | held
      · exact tallies.activeCovers.mpr covers
      · exact held.now.1
    rw [keys, List.mem_insert_iff, tallies.held running, heldCurrent_snoc]
    simp only [stateKey?, isLag, key_eq, Option.some.injEq]
    rw [eq_comm (a := key)]
    exact ⟨fun known => ⟨⟨covered known, trivial⟩, known⟩, fun known => known.2⟩
  fresh := by
    intro other member
    obtain ⟨before, distinct⟩ := burst other member
    obtain ⟨unheld, covered⟩ := tallies.fresh other before
    rw [keys, List.mem_insert_iff, not_or, Covered, topics]
    exact ⟨⟨distinct, unheld⟩, covered⟩
  distinct := distinct

theorem Tallies.unsubscribe (tallies : Tallies conn seen)
    (running : conn.phase ≠ .closed) (topic : Topic) :
    Tallies { conn.unsubscribe topic with phase := .main }
      (seen ++ [.unsubscribed topic]) := by
  have topics : conn.subscriptions.filter (· ≠ topic) =
      active (seen ++ [.unsubscribed topic]) := by
    rw [tallies.topics, active_append]
    rfl
  have kept : ∀ key, key ∈ (conn.unsubscribe topic).snapshottedKeys ↔
      key ∈ conn.snapshottedKeys ∧
        ActiveCovers key (seen ++ [.unsubscribed topic]) := by
    intro key
    rw [ActiveCovers, ← topics]
    exact List.mem_filter
  exact {
    topics
    covered := by
      intro key member
      have covers := ((kept key).mp member).2
      rw [ActiveCovers, ← topics] at covers
      exact covers
    held := by
      intro _ key
      rw [heldCurrent_snoc]
      refine (kept key).trans ?_
      rw [tallies.held running key]
      simp [stateKey?, isLag, and_comm]
    fresh := by simp [Conn.burst]
    distinct := by simp [Conn.burst] }

theorem Tallies.lagged (tallies : Tallies conn seen)
    {lost : List BroadcastEnvelope} {topics : List Topic}
    {report : Option DroppedFrame}
    (same : next.subscriptions = conn.subscriptions)
    (keys : next.snapshottedKeys = []) (burst : next.burst = []) :
    Tallies next
      (seen ++ .lagged lost topics :: Conn.droppedFrames report) where
  topics := by
    rw [same, tallies.topics, active_append]
    cases report <;> rfl
  covered := by simp [keys]
  held := by
    intro _ key
    have silent : ∀ here ∈ Conn.droppedFrames report, quiet here = true := by
      cases report <;> simp [Conn.droppedFrames, quiet, stateKey?, isLag,
        isUnsubscribe]
    rw [List.append_cons, heldCurrent_quiet silent, heldCurrent_snoc, keys]
    simp [isLag]
  fresh := by simp [burst]
  distinct := by simp [burst]

theorem Tallies.select (tallies : Tallies conn seen) {topic : Topic}
    {states : List SessionCurrentState} {nowMs : Int} {read : Bool}
    (wellFormed : view.db.WellFormed)
    (reading : conn.phase = .readingSnapshot topic states nowMs) :
    Tallies (conn.readSnapshot view topic states nowMs read).1
      (seen ++ [.subscribed topic states]) := by
  have grows : ∀ key, Covered key conn →
      Covered key (conn.readSnapshot view topic states nowMs read).1 := by
    intro key covers
    obtain ⟨other, member, covering⟩ := List.any_eq_true.mp covers
    exact List.any_eq_true.mpr ⟨other, List.mem_insert_of_mem member, covering⟩
  have burst : (conn.readSnapshot view topic states nowMs read).1.burst =
      if read then
        snapshotForTopic topic conn.snapshottedKeys nowMs states view.db
      else [] := burst_afterBurst rfl
  exact {
    topics := by
      rw [active_append, ← tallies.topics]
      rfl
    covered := fun key member => grows key (tallies.covered key member)
    held := by
      intro _ key
      rw [heldCurrent_quiet (by simp [quiet, stateKey?, isLag, isUnsubscribe])]
      exact tallies.held (by rw [reading]; simp) key
    fresh := by
      intro frame member
      rw [burst] at member
      split at member
      · obtain ⟨stored, shows, _⟩ := (mem_snapshotForTopic wellFormed).mp member
        exact ⟨shows.uncovered, List.any_eq_true.mpr
          ⟨topic, List.mem_insert_self, shows.covered⟩⟩
      · cases member
    distinct := by
      rw [burst]
      split
      · exact snapshotForTopic_keyed wellFormed.keyed
      · exact List.nodup_nil }

theorem moves_tallies (tallies : Tallies conn seen)
    (wellFormed : view.db.WellFormed)
    (moves : Conn.Moves view conn label next out) :
    Tallies next (seen ++ out) := by
  have running : next.phase ≠ .closed → conn.phase ≠ .closed :=
    fun open_ closed => open_ (moves_closed moves closed).1
  have topics := moves_topics moves
  cases moves with
  | @sent _ envelope receives found selected =>
      have open_ : conn.phase ≠ .closed := by
        intro closed
        rw [closed] at receives
        cases receives
      have idle : ({ conn with next := conn.next + 1 }.delivered
          envelope).burst = [] := burst_receiving (by simpa using receives)
      cases envelope with
      | event event =>
          exact tallies.aside running topics rfl rfl (.inr idle)
            (by simp [quiet, stateKey?, isLag, isUnsubscribe, envelopeFrame])
      | state source sessionId state =>
          rw [List.append_cons]
          have dequeued : Tallies conn (seen ++
              [.dequeued (.state source sessionId state) conn.subscriptions]) :=
            tallies.aside id rfl rfl rfl (.inl rfl)
              (by simp [quiet, stateKey?, isLag, isUnsubscribe])
          refine dequeued.shown open_ rfl rfl rfl ?_ (by simp [idle])
            (by simp [idle])
          simp only [Topic.matches_state] at selected
          exact selected
  | @lagged _ n _ _ _ _ keys phase report receives behind cleared lives =>
      refine tallies.lagged rfl ?_ ?_
      · change keys = []
        rw [cleared]
        split
        · rename_i unsubscribed
          refine List.eq_nil_iff_forall_not_mem.mpr fun key member => ?_
          have covers := tallies.covered key member
          rw [Covered, unsubscribed] at covers
          cases covers
        · rfl
      · rcases lives with rfl | ⟨rfl, _⟩
        · exact burst_receiving receives
        · rfl
  | @drained _ _ drain draining =>
      have open_ : conn.phase ≠ .closed := by
        rw [draining]
        simp
      cases drain with
      | subscribe topic states =>
          exact tallies.aside running topics rfl rfl (.inr rfl)
            (by simp [Conn.endDrain, quiet, stateKey?, isLag, isUnsubscribe])
      | shutdown =>
          exact tallies.aside running topics rfl rfl (.inr rfl)
            (by simp [Conn.endDrain, quiet, stateKey?, isLag, isUnsubscribe])
      | unsubscribe topic =>
          rw [show seen ++ (conn.endDrain (.unsubscribe topic)).2 =
            seen ++ .drained :: [.unsubscribed topic] from rfl,
            List.append_cons]
          have drained : Tallies conn (seen ++ [.drained]) :=
            tallies.aside id rfl rfl rfl (.inl rfl)
              (by simp [quiet, stateKey?, isLag, isUnsubscribe])
          exact drained.unsubscribe open_ topic
  | readSnapshot reading => exact tallies.select wellFormed reading
  | @emitted nowMs asOf frame frames emitting =>
      have burst : conn.burst = frame :: frames := by
        rw [Conn.burst, emitting]
      have rest : ({ conn with
          snapshottedKeys := conn.snapshottedKeys.insert frame.key
          phase := Conn.afterBurst nowMs asOf frames } : Conn).burst = frames :=
        burst_afterBurst rfl
      have distinct := tallies.distinct
      rw [burst, List.map_cons, List.nodup_cons] at distinct
      refine tallies.shown (by rw [emitting]; simp) rfl rfl rfl
        (tallies.fresh frame (by simp [burst])).2 ?_
        (by rw [rest]; exact distinct.2)
      intro other member
      rw [rest] at member
      refine ⟨by simp [burst, member], fun same => distinct.1 ?_⟩
      exact same ▸ List.mem_map_of_mem member
  | @unemitted nowMs asOf frame frames emitting =>
      have burst : conn.burst = frame :: frames := by
        rw [Conn.burst, emitting]
      exact {
        topics := by
          rw [List.append_nil]
          exact tallies.topics
        covered := by
          intro key member
          rcases List.mem_insert_iff.mp member with rfl | member
          · exact (tallies.fresh frame (by simp [burst])).2
          · exact tallies.covered key member
        held := fun open_ => absurd rfl open_
        fresh := by simp [Conn.burst]
        distinct := by simp [Conn.burst] }
  | ended _ reason =>
      refine tallies.aside running topics rfl rfl (.inr rfl) ?_
      cases reason <;> simp [quiet, stateKey?, isLag, isUnsubscribe]
  | poked => exact tallies.aside running topics rfl rfl (.inl rfl) (by simp)
  | greeted | drains | unsent | filtered | readClock | saidClose =>
      refine tallies.aside running topics rfl rfl ?_
        (by simp [quiet, stateKey?, isLag, isUnsubscribe])
      first | exact .inr rfl | exact .inl rfl

end Step

section Run

variable {config : WsConfig} {ok : World → WorldLabel → Prop} {db : Db}
variable {hub : List BroadcastEnvelope} {clock : Nat} {final : World}
variable {seen : List WorldSeen}

theorem tallies_upgraded (hello : HelloFrame) (next : Nat) :
    Tallies (Conn.upgraded hello next) [.upgraded] where
  topics := rfl
  covered := by simp [Conn.upgraded]
  held := by
    intro _ key
    have upgraded : HeldCurrent key ([] ++ [.upgraded]) ↔ HeldCurrent key [] :=
      heldCurrent_quiet_snoc rfl
    rw [List.nil_append] at upgraded
    rw [upgraded]
    exact ⟨fun member => (List.not_mem_nil member).elim,
      fun held => absurd held Trace.not_stands_nil⟩
  fresh := by simp [Conn.upgraded, Conn.burst]
  distinct := by simp [Conn.upgraded, Conn.burst]

/-- No snapshot frame is of a session that is current already. -/
def SnapshotsFresh (seen : List ConnSeen) : Prop :=
  Trace.Each
    (fun past here => ∀ key, snapshotKey? here = some key →
      ¬ HeldCurrent key past) seen

theorem moves_snapshots {view : View} {conn next : Conn} {label : ConnLabel}
    {seen out : List ConnSeen} (tallies : Tallies conn seen)
    (moves : Conn.Moves view conn label next out) :
    Trace.Each (fun past here => ∀ key, snapshotKey? here = some key →
      ¬ HeldCurrent key (seen ++ past)) out := by
  have silent : (∀ here ∈ out, snapshotKey? here = none) →
      Trace.Each (fun past here => ∀ key, snapshotKey? here = some key →
        ¬ HeldCurrent key (seen ++ past)) out := by
    intro nothing early here late split key shown
    rw [nothing here (by simp [split])] at shown
    cases shown
  cases moves with
  | @emitted nowMs asOf frame frames emitting =>
      rw [Trace.each_cons, List.append_nil]
      refine ⟨fun key shown => ?_, Trace.each_nil⟩
      cases shown
      rw [← tallies.held (by rw [emitting]; simp)]
      exact (tallies.fresh frame (by simp [Conn.burst, emitting])).1
  | @sent _ envelope =>
      refine silent ?_
      cases envelope <;> simp [snapshotKey?, envelopeFrame]
  | @lagged _ _ _ _ _ _ _ _ report =>
      refine silent ?_
      cases report <;> simp [snapshotKey?, Conn.droppedFrames]
  | @drained _ _ drain =>
      refine silent ?_
      cases drain <;> simp [snapshotKey?, Conn.endDrain]
  | ended _ reason =>
      refine silent ?_
      cases reason <;> simp [snapshotKey?]
  | readSnapshot => exact silent (by simp [snapshotKey?, Conn.readSnapshot])
  | greeted | poked | drains | unsent | filtered | readClock | unemitted
    | saidClose => exact silent (by simp [snapshotKey?])

structure Covers (world : World) (seen : List ConnSeen) : Prop where
  tallies : ∀ conn, world.conn = some conn → Tallies conn seen
  snapshots : SnapshotsFresh seen

theorem Covers.step {world next : World} {label : WorldLabel}
    {seen out : List WorldSeen} (covers : Covers world (connSeen seen))
    (connected : Connected world seen) (wellFormed : world.store.db.WellFormed)
    (moves : World.Moves config world label next out) :
    Covers next (connSeen (seen ++ out)) := by
  rw [connSeen_append]
  cases moves with
  | clock | begin | transact | finish | flagged =>
      simp only [connSeen_nil, connSeen_store, List.append_nil]
      exact ⟨covers.tallies, covers.snapshots⟩
  | upgraded absent =>
      unfold Connected at connected
      rw [absent] at connected
      rw [connected]
      refine ⟨?_, ?_⟩
      · intro conn present
        cases present
        exact tallies_upgraded _ _
      · refine Trace.each_cons.mpr ⟨?_, Trace.each_nil⟩
        intro key shown
        cases shown
  | @conn label conn after out present moves =>
      rw [connSeen_conn]
      have tallies := covers.tallies conn present
      refine ⟨?_, covers.snapshots.append (moves_snapshots tallies moves)⟩
      intro later present
      cases present
      exact moves_tallies tallies wellFormed moves

theorem covers_of_run (wellFormed : db.WellFormed)
    (run : (World.machine config).Run ok (World.initial db hub clock) final
      seen) : Covers final (connSeen seen) := by
  refine run.invariant (fun world seen => Covers world (connSeen seen))
    ⟨?_, Trace.each_nil⟩ ?_
  · intro conn present
    cases present
  · intro middle next seen out label before covers _ taken
    exact covers.step (connected_of_run before)
      ((World.ledger before wellFormed rfl).chained.wellFormed wellFormed)
      (World.step_moves taken)

/-! What the coverage decides: the bursts. -/

/-- Every snapshot that is to show the session would show it. -/
def Eligible (key : SessionKey) (conn : Conn) : Prop :=
  ∀ (topic : Topic) (states : List SessionCurrentState) (nowMs : Int) (db : Db)
    (stored : SessionState), db.WellFormed →
    Shows topic [] nowMs states db key stored →
    key ∈ (snapshotForTopic topic conn.snapshottedKeys nowMs states db).map
      StateFrame.key

/-- No snapshot would show it. -/
def Suppressed (key : SessionKey) (conn : Conn) : Prop :=
  ∀ (topic : Topic) (states : List SessionCurrentState) (nowMs : Int) (db : Db),
    key ∉ (snapshotForTopic topic conn.snapshottedKeys nowMs states db).map
      StateFrame.key

structure SnapshotCoverage (conn : Conn) (seen : List ConnSeen) : Prop where
  covered : ∀ key ∈ conn.snapshottedKeys, ActiveCovers key seen
  /-- Between two snapshot frames of a session its coverage has ended. -/
  once : ∀ early first mid second late key,
    seen = early ++ first :: (mid ++ second :: late) →
    snapshotKey? first = some key → snapshotKey? second = some key →
    (∃ other ∈ mid, isLag other = true) ∨
      ∃ front, front <+: mid ∧ ¬ ActiveCovers key (early ++ first :: front)
  /-- The last topic that covers a session is gone. -/
  uncovers : conn.phase ≠ .closed → ∀ early topic mid key,
    seen = early ++ .unsubscribed topic :: mid →
    ¬ ActiveCovers key (early ++ [.unsubscribed topic]) →
    (∀ here ∈ mid, stateKey? here ≠ some key) → Eligible key conn
  loses : conn.phase ≠ .closed → ∀ early lost topics mid key,
    seen = early ++ .lagged lost topics :: mid →
    (∀ here ∈ mid, stateKey? here ≠ some key) → Eligible key conn
  /-- One of several topics is gone. -/
  stays : conn.phase ≠ .closed → ∀ early topic mid key,
    seen = early ++ .unsubscribed topic :: mid → HeldCurrent key early →
    (∀ other ∈ mid, isLag other = false) →
    (∀ front, front <+: mid →
      ActiveCovers key (early ++ .unsubscribed topic :: front)) →
    Suppressed key conn

theorem eligible_of_not_mem {key : SessionKey} {conn : Conn}
    (unheld : key ∉ conn.snapshottedKeys) : Eligible key conn := by
  intro topic states nowMs db stored wellFormed shows
  exact List.mem_map.mpr ⟨⟨key.source, key.sessionId, _⟩,
    (mem_snapshotForTopic wellFormed).mpr
      ⟨stored, { shows with uncovered := unheld }, rfl⟩, rfl⟩

theorem suppressed_of_mem {key : SessionKey} {conn : Conn}
    (held : key ∈ conn.snapshottedKeys) : Suppressed key conn := by
  intro topic states nowMs db inside
  obtain ⟨frame, member, rfl⟩ := List.mem_map.mp inside
  clear inside
  unfold snapshotForTopic at member
  split at member
  · obtain ⟨row, _, shown⟩ := List.mem_filterMap.mp member
    obtain ⟨_, _, unheld, _, _, rfl⟩ := snapshotFrame_eq_some.mp shown
    exact unheld held
  · cases member

theorem Covers.snapshotCoverage {world : World} {conn : Conn}
    {seen : List ConnSeen} (covers : Covers world seen)
    (present : world.conn = some conn) : SnapshotCoverage conn seen := by
  have tallies := covers.tallies conn present
  have eligible : conn.phase ≠ .closed → ∀ {key}, ¬ HeldCurrent key seen →
      Eligible key conn := fun open_ key unheld =>
    eligible_of_not_mem fun member => unheld ((tallies.held open_ key).mp member)
  exact {
    covered := fun key member =>
      tallies.activeCovers.mpr (tallies.covered key member)
    once := by
      intro early first mid second late key split shownFirst shownSecond
      have unheld := covers.snapshots (early ++ first :: mid) second late
        (by simp [split]) key shownSecond
      by_contra continuous
      push Not at continuous
      obtain ⟨lossless, always⟩ := continuous
      obtain ⟨shown, unlagged⟩ := stateKey_snapshot shownFirst
      refine unheld ?_
      rw [List.append_cons]
      refine HeldCurrent.kept (heldCurrent_snoc.mpr
          ⟨⟨always [] (List.nil_prefix ..), unlagged⟩, .inl shown⟩)
        (fun other member => by simpa using lossless other member)
        fun front within => ?_
      rw [← List.append_cons]
      exact always front within
    uncovers := by
      intro open_ early topic mid key split uncovered unshown
      refine eligible open_ ?_
      rw [split, List.append_cons]
      exact heldCurrent_unshown (fun held => uncovered held.now.1) unshown
    loses := by
      intro open_ early lost topics mid key split unshown
      refine eligible open_ ?_
      rw [split, List.append_cons]
      refine heldCurrent_unshown (fun held => ?_) unshown
      cases (heldCurrent_snoc.mp held).1.2
    stays := by
      intro open_ early topic mid key split held lossless always
      refine suppressed_of_mem ((tallies.held open_ key).mpr ?_)
      rw [split]
      refine held.kept ?_ ?_
      · intro other member
        rcases List.mem_cons.mp member with rfl | member
        · rfl
        · exact lossless other member
      · intro front within
        cases front with
        | nil =>
            rw [List.append_nil]
            exact held.now.1
        | cons head front =>
            obtain ⟨same, tail⟩ := List.cons_prefix_cons.mp within
            subst same
            exact always front tail }

end Run

end Bowerbird.Daemon
