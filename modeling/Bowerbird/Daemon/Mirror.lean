import Bowerbird.Daemon.Freshness

namespace Bowerbird.Daemon

open Protocol Foundation Projection Api

/-! The mirror that a client keeps of the stored states.  Once a topic has been
subscribed to without a filter, every session that it covers has been shown as
it is stored, or has a state on its way. -/

def isLag : ConnSeen → Bool
  | .lagged _ _ => true
  | _ => false

/-- Subscribed to without a filter; neither unsubscribed from nor lagged since. -/
def MirrorsSince (topic : Topic) (seen : List ConnSeen) : Prop :=
  Trace.Since (· = .subscribed topic [])
    (fun here => here ≠ .unsubscribed topic ∧ isLag here = false) seen

/-- A stale `Working`, shown as `Idle` by a snapshot after the last event. -/
def Lapsed (db : Db) (key : SessionKey) (stored : SessionState) : Origin → Prop
  | .snapshot nowMs asOf =>
      isStale stored nowMs ∧
        ∀ row ∈ db.events, row.key = key → row.eventId ≤ asOf
  | .live | .control => False

def Current (db : Db) (key : SessionKey) (stored : SessionState)
    (frame : SessionState × Origin) : Prop :=
  frame.1.currentState = stored.currentState ∨
    (stored.currentState = .working ∧ frame.1.currentState = .idle) ∧
      Lapsed db key stored frame.2

/-- A write under way whose reading of the clock is too early to see that the
session is stale, and that leaves it `Working`. -/
def Renews (flight : InFlight WriterTask) (key : SessionKey)
    (stored : SessionState) : Prop :=
  match flight.request, flight.result with
  | .event envelope precondition, none =>
      envelope.key = key ∧
        preconditionAdmits precondition (some stored) = true ∧
        ¬ isStale stored flight.nowMs ∧
        (envelopeTransition envelope (some stored)
          flight.nowMs).currentState = .working
  | _, _ => False

/-- No write under way renews a session that the SELECT would show as lapsed. -/
def NoneRenewed (world : World) : Prop :=
  match world.conn, world.store.inFlight with
  | some conn, some flight =>
      match conn.phase with
      | .readingSnapshot topic states nowMs =>
          ∀ stored ∈ world.store.db.stored
              (flight.request.columns flight.nowMs).key,
            Shows topic conn.snapshottedKeys nowMs states world.store.db
                (flight.request.columns flight.nowMs).key stored →
              currentStateForRead stored nowMs = stored.currentState ∨
                ¬ Renews flight (flight.request.columns flight.nowMs).key stored
      | _ => True
  | _, _ => True

/-- The clock does not go back, and the snapshot queries succeed. -/
def readsSucceed (world : World) (label : WorldLabel) : Prop :=
  world.clockForward label ∧
    match label with
    | .conn (.readSnapshot read) => read = true
    | _ => True

/-- Besides, no SELECT runs beside a write that renews what it shows as lapsed. -/
def keepsMirrors (world : World) (label : WorldLabel) : Prop :=
  readsSucceed world label ∧
    match label with
    | .conn (.readSnapshot _) => NoneRenewed world
    | _ => True

/-- The last frame of the session is there and up to date. -/
structure Mirrored (world : World) (seen : List ConnSeen) (key : SessionKey)
    (stored : SessionState) : Prop where
  shown : ∃ frame, (seen.filterMap (stateShown key)).getLast? = some frame ∧
    Current world.store.db key stored frame

/-- The receiver is empty, no write is under way, and no frame of the session
remains in a burst. -/
structure AtRest (world : World) (conn : Conn) (key : SessionKey) : Prop where
  present : world.conn = some conn
  open_ : conn.phase ≠ .closed
  caughtUp : world.store.hub.length ≤ conn.next
  idle : world.store.inFlight = none
  finished : ∀ frame ∈ conn.burst, frame.key ≠ key

section Decidable

instance (topic : Topic) (seen : List ConnSeen) :
    Decidable (MirrorsSince topic seen) :=
  inferInstanceAs (Decidable (Trace.Since _ _ _))

instance (db : Db) (key : SessionKey) (stored : SessionState)
    (origin : Origin) : Decidable (Lapsed db key stored origin) := by
  unfold Lapsed
  split <;> infer_instance

instance (db : Db) (key : SessionKey) (stored : SessionState)
    (frame : SessionState × Origin) : Decidable (Current db key stored frame) :=
  inferInstanceAs (Decidable (_ ∨ _))

instance (flight : InFlight WriterTask) (key : SessionKey)
    (stored : SessionState) : Decidable (Renews flight key stored) := by
  unfold Renews
  split <;> infer_instance

instance (world : World) : Decidable (NoneRenewed world) := by
  obtain ⟨⟨_, _, inFlight⟩, _, _, _, _, _, _, conn⟩ := world
  cases conn with
  | none => exact .isTrue trivial
  | some conn =>
      cases inFlight with
      | none => exact .isTrue trivial
      | some flight =>
          obtain ⟨phase, _⟩ := conn
          cases phase with
          | readingSnapshot topic states nowMs =>
              exact inferInstanceAs (Decidable (∀ _ ∈ Db.stored _ _, _ → _ ∨ _))
          | greeting | main | draining | readingClock | emitting | closing
            | closed => exact .isTrue trivial

instance (world : World) (label : WorldLabel) :
    Decidable (readsSucceed world label) := by
  unfold readsSucceed
  split <;> infer_instance

instance (world : World) (label : WorldLabel) :
    Decidable (keepsMirrors world label) := by
  unfold keepsMirrors
  split <;> infer_instance

instance (world : World) (seen : List ConnSeen) (key : SessionKey)
    (stored : SessionState) : Decidable (Mirrored world seen key stored) :=
  decidable_of_iff
    (∃ frame ∈ (seen.filterMap (stateShown key)).getLast?,
      Current world.store.db key stored frame)
    ⟨fun shown => ⟨shown⟩, fun mirrored => mirrored.shown⟩

instance (world : World) (conn : Conn) (key : SessionKey) :
    Decidable (AtRest world conn key) :=
  decidable_of_iff
    (world.conn = some conn ∧ conn.phase ≠ .closed ∧
      world.store.hub.length ≤ conn.next ∧ world.store.inFlight = none ∧
      ∀ frame ∈ conn.burst, frame.key ≠ key)
    ⟨fun ⟨present, open_, caughtUp, idle, finished⟩ =>
      ⟨present, open_, caughtUp, idle, finished⟩,
    fun ⟨present, open_, caughtUp, idle, finished⟩ =>
      ⟨present, open_, caughtUp, idle, finished⟩⟩

end Decidable

/-! What a step of the connection does to one session. -/

/-- The sessions that the connection has shown or is about to show. -/
def Tracked (key : SessionKey) (conn : Conn) : Prop :=
  key ∈ conn.snapshottedKeys ∨ burstShown key conn ≠ []

def Covered (key : SessionKey) (conn : Conn) : Prop :=
  conn.subscriptions.any (·.coversStateSession key.sessionId) = true

/-- The session's states that the receiver has not taken yet. -/
def unread (key : SessionKey) (view : View) (conn : Conn) : List SessionState :=
  (view.hub.drop conn.next).filterMap (stateArriving key)

/-- A step takes some of the session's states off the channel; if it still
tracks the session, it has shown them. -/
structure Passes (key : SessionKey) (view : View) (conn next : Conn)
    (out : List ConnSeen) (states : List SessionState) : Prop where
  takes : unread key view conn = states ++ unread key view next
  shown : Tracked key next →
    out.filterMap (stateShown key) ++ burstShown key next =
      burstShown key conn ++ states.map (·, .live)
  fresh : Tracked key next → Tracked key conn ∨ states ≠ []
  kept : (∀ here ∈ out, isLag here = false) → Covered key next →
    Tracked key conn ∨ states ≠ [] → Tracked key next
  covered : Tracked key next → Covered key next

section Passes

variable {key : SessionKey} {view : View} {conn next : Conn}
variable {label : ConnLabel} {out : List ConnSeen}

theorem covered_matches {envelope : BroadcastEnvelope} {state : SessionState}
    (arriving : stateArriving key envelope = some state) :
    conn.subscriptions.any (·.matches envelope) = true ↔ Covered key conn := by
  rw [stateArriving_eq_some arriving, Covered]
  simp only [Topic.matches_state]

theorem tracked_idle (idle : burstShown key conn = []) :
    Tracked key conn ↔ key ∈ conn.snapshottedKeys := by
  simp [Tracked, idle]

/-- A step that leaves the session alone. -/
theorem passes_still (covered : Tracked key conn → Covered key conn)
    (position : next.next = conn.next)
    (topics : next.subscriptions = conn.subscriptions)
    (keys : next.snapshottedKeys = conn.snapshottedKeys)
    (silent : out.filterMap (stateShown key) = [])
    (burst : burstShown key next = burstShown key conn) :
    Passes key view conn next out [] := by
  have same : Tracked key next ↔ Tracked key conn := by
    rw [Tracked, Tracked, keys, burst]
  exact {
    takes := by simp [unread, position]
    shown := by simp [silent, burst]
    fresh := fun tracked => .inl (same.mp tracked)
    kept := fun _ _ tracked => same.mpr (tracked.resolve_right (by simp))
    covered := fun tracked => by
      rw [Covered, topics]
      exact covered (same.mp tracked) }

/-- What a live frame does to the session it is about. -/
theorem passes_sent {envelope : BroadcastEnvelope}
    (covered : Tracked key conn → Covered key conn)
    (receives : Conn.receiving conn.phase = true)
    (found : view.hub[conn.next]? = some envelope)
    (selected : conn.subscriptions.any (·.matches envelope) = true) :
    Passes key view conn
      ({ conn with next := conn.next + 1 }.delivered envelope)
      [.dequeued envelope conn.subscriptions,
        .frame (envelopeFrame envelope) .live]
      (stateArriving key envelope).toList := by
  have idle : burstShown key conn = [] := burstShown_receiving receives
  have still : burstShown key
      ({ conn with next := conn.next + 1 }.delivered envelope) = [] :=
    burstShown_receiving (by simpa using receives)
  have taken : unread key view conn = (stateArriving key envelope).toList ++
      (view.hub.drop (conn.next + 1)).filterMap (stateArriving key) := by
    rw [unread, Broadcast.drop_of_getElem? found]
    cases arriving : stateArriving key envelope with
    | none =>
        rw [List.filterMap_cons_none arriving]
        rfl
    | some state =>
        rw [List.filterMap_cons_some arriving]
        rfl
  have frames : [ConnSeen.dequeued envelope conn.subscriptions,
      .frame (envelopeFrame envelope) .live].filterMap (stateShown key) =
        (stateArriving key envelope).toList.map (·, .live) := by
    rw [List.filterMap_cons_none rfl]
    cases arriving : stateArriving key envelope with
    | none =>
        have silent : stateShown key (.frame (envelopeFrame envelope) .live) =
            none := by
          rw [stateShown_live, arriving]
          rfl
        rw [List.filterMap_cons_none silent]
        rfl
    | some state =>
        have own : stateShown key (.frame (envelopeFrame envelope) .live) =
            some (state, .live) := by
          rw [stateShown_live, arriving]
          rfl
        rw [List.filterMap_cons_some own]
        rfl
  have tracks : Tracked key ({ conn with next := conn.next + 1 }.delivered
      envelope) ↔ Tracked key conn ∨ (stateArriving key envelope).toList ≠ [] := by
    rw [tracked_idle still, tracked_idle idle]
    cases envelope with
    | event event => simp [Conn.delivered, stateArriving_event]
    | state source sessionId state =>
        rw [stateArriving_state]
        by_cases same : (⟨source, sessionId⟩ : SessionKey) = key
        · simp [Conn.delivered, ofFrame, StateFrame.key, same]
        · simp [Conn.delivered, ofFrame, StateFrame.key, same, Ne.symm same]
  exact {
    takes := by rw [taken, unread, Conn.delivered_next]
    shown := fun _ => by rw [frames, still, idle]; simp
    fresh := tracks.mp
    kept := fun _ _ => tracks.mpr
    covered := fun tracked => by
      rw [Covered, Conn.delivered_subscriptions]
      rcases tracks.mp tracked with before | shows
      · exact covered before
      · cases arriving : stateArriving key envelope with
        | none => simp [arriving] at shows
        | some state => exact (covered_matches arriving).mp selected }

/-- A state that no topic matches is of a session that is not tracked. -/
theorem passes_filtered {envelope : BroadcastEnvelope}
    (covered : Tracked key conn → Covered key conn)
    (receives : Conn.receiving conn.phase = true)
    (found : view.hub[conn.next]? = some envelope)
    (refused : conn.subscriptions.any (·.matches envelope) = false) :
    Passes key view conn { conn with next := conn.next + 1 }
      [.dequeued envelope conn.subscriptions]
      (stateArriving key envelope).toList := by
  have idle : burstShown key conn = [] := burstShown_receiving receives
  have still : burstShown key { conn with next := conn.next + 1 } = [] :=
    burstShown_receiving receives
  cases arriving : stateArriving key envelope with
  | none =>
      have skips : unread key view conn =
          unread key view { conn with next := conn.next + 1 } := by
        rw [unread, unread, Broadcast.drop_of_getElem? found,
          List.filterMap_cons_none arriving]
      exact {
        takes := skips
        shown := fun _ => by rw [still, idle]; rfl
        fresh := .inl
        kept := fun _ _ tracked => tracked.resolve_right (by simp)
        covered := covered }
  | some state =>
      have uncovered : ¬ Covered key conn := by
        rw [← covered_matches arriving, refused]
        exact Bool.false_ne_true
      have untracked : ¬ Tracked key conn := fun tracked =>
        uncovered (covered tracked)
      exact {
        takes := by
          rw [unread, unread, Broadcast.drop_of_getElem? found,
            List.filterMap_cons_some arriving]
          rfl
        shown := fun tracked => absurd tracked untracked
        fresh := .inl
        kept := fun _ still _ => absurd still uncovered
        covered := covered }

/-- A frame of a burst moves from what is about to be shown to what is shown. -/
theorem passes_emitted {nowMs asOf : Int} {frame : StateFrame}
    {frames : List StateFrame} (covered : Tracked key conn → Covered key conn)
    (emitting : conn.phase = .emitting nowMs asOf (frame :: frames)) :
    Passes key view conn
      { conn with
        snapshottedKeys := conn.snapshottedKeys.insert frame.key
        phase := Conn.afterBurst nowMs asOf frames }
      [.frame (.state frame) (.snapshot nowMs asOf)] [] := by
  have before : burstShown key conn = _ := burstShown_emitting emitting
  have after : burstShown key
      { conn with
        snapshottedKeys := conn.snapshottedKeys.insert frame.key
        phase := Conn.afterBurst nowMs asOf frames } =
        (frames.filterMap (ofFrame key)).map (·, .snapshot nowMs asOf) :=
    burstShown_afterBurst rfl
  by_cases same : frame.key = key
  · have own : ofFrame key frame = some frame.state := if_pos same
    have shows : stateShown key (.frame (.state frame) (.snapshot nowMs asOf)) =
        some (frame.state, .snapshot nowMs asOf) := by
      simp [stateShown, own]
    rw [List.filterMap_cons_some own] at before
    exact {
      takes := rfl
      shown := fun _ => by
        rw [before, after, List.filterMap_cons_some shows]
        simp
      fresh := fun _ => .inl (.inr (by simp [before]))
      kept := fun _ _ _ => .inl (by simp [same])
      covered := fun _ => covered (.inr (by simp [before])) }
  · have other : ofFrame key frame = none := if_neg same
    have silent : stateShown key (.frame (.state frame) (.snapshot nowMs asOf)) =
        none := by
      simp [stateShown, other]
    rw [List.filterMap_cons_none other] at before
    have tracks : Tracked key
        { conn with
          snapshottedKeys := conn.snapshottedKeys.insert frame.key
          phase := Conn.afterBurst nowMs asOf frames } ↔ Tracked key conn := by
      rw [Tracked, Tracked, before, after]
      simp [Ne.symm same]
    exact {
      takes := rfl
      shown := fun _ => by
        rw [before, after, List.filterMap_cons_none silent]
        simp
      fresh := fun tracked => .inl (tracks.mp tracked)
      kept := fun _ _ tracked => tracks.mpr (tracked.resolve_right (by simp))
      covered := fun tracked => covered (tracks.mp tracked) }

theorem moves_passes (moves : Conn.Moves view conn label next out)
    (quiet : label.selects = false) (open_ : next.phase ≠ .closed)
    (covered : Tracked key conn → Covered key conn) :
    ∃ states, Passes key view conn next out states := by
  cases moves with
  | sent receives found selected =>
      exact ⟨_, passes_sent covered receives found selected⟩
  | filtered receives found refused =>
      exact ⟨_, passes_filtered covered receives found refused⟩
  | @lagged _ n _ _ _ _ keys phase report receives behind cleared lives =>
      have same : phase = conn.phase := by
        rcases lives with same | ⟨closed, _⟩
        · exact same
        · exact absurd closed open_
      subst same
      have untracked : key ∉ keys := by
        rw [cleared]
        split
        · rename_i unsubscribed
          intro member
          have some_topic := covered (.inl member)
          rw [Covered, unsubscribed] at some_topic
          cases some_topic
        · exact List.not_mem_nil
      have lost : ∀ {after : Conn}, after.phase = conn.phase →
          after.snapshottedKeys = keys → ¬ Tracked key after := by
        intro after still kept tracked
        rcases tracked with member | shows
        · rw [kept] at member
          exact untracked member
        · refine shows (burstShown_receiving ?_)
          rw [still]
          exact receives
      refine ⟨(Broadcast.skipped view.hub conn.next n).filterMap
        (stateArriving key), ?_, ?_, ?_, ?_, ?_⟩
      · rw [unread, unread, ← List.filterMap_append]
        exact congrArg _ (Broadcast.skipped_append_drop _ _ _).symm
      · exact fun tracked => absurd tracked (lost rfl rfl)
      · exact fun tracked => absurd tracked (lost rfl rfl)
      · intro lossless
        exact absurd (lossless _ (List.mem_cons_self ..)) (by simp [isLag])
      · exact fun tracked => absurd tracked (lost rfl rfl)
  | @drained _ _ drain draining =>
      have idle : burstShown key conn = [] := by
        refine burstShown_eq_nil fun _ _ _ emitting => ?_
        rw [draining] at emitting
        cases emitting
      cases drain with
      | subscribe topic states => exact ⟨[], passes_still covered rfl rfl rfl rfl idle.symm⟩
      | shutdown => exact ⟨[], passes_still covered rfl rfl rfl rfl idle.symm⟩
      | unsubscribe topic =>
          have still : burstShown key (conn.endDrain (.unsubscribe topic)).1 =
            [] := rfl
          refine ⟨[], rfl, fun _ => by rw [idle]; rfl, ?_, ?_, ?_⟩
          · intro tracked
            rw [tracked_idle still] at tracked
            exact .inl (.inl (List.mem_filter.mp tracked).1)
          · intro _ stays tracked
            have before := (tracked_idle idle).mp
              (tracked.resolve_right (by simp))
            exact .inl (List.mem_filter.mpr ⟨before, stays⟩)
          · intro tracked
            rw [tracked_idle still] at tracked
            exact (List.mem_filter.mp tracked).2
  | emitted emitting => exact ⟨[], passes_emitted covered emitting⟩
  | ended _ reason => exact absurd rfl open_
  | unsent | unemitted | saidClose => exact absurd rfl open_
  | greeted phase | poked _ phase | drains _ phase =>
      have idle : burstShown key conn = [] := by
        refine burstShown_eq_nil fun _ _ _ emitting => ?_
        rw [phase] at emitting
        cases emitting
      refine ⟨[], passes_still covered rfl rfl rfl rfl ?_⟩
      rw [idle]
      first | rfl | exact idle
  | readClock reading =>
      have idle : burstShown key conn = [] := by
        refine burstShown_eq_nil fun _ _ _ emitting => ?_
        rw [reading] at emitting
        cases emitting
      exact ⟨[], passes_still covered rfl rfl rfl rfl idle.symm⟩
  | readSnapshot => cases quiet

end Passes

/-! What a commit without a state envelope does to one session. -/

section Silent

variable {key : SessionKey} {store next : Store WriterTask}
variable {flight : InFlight WriterTask} {result : Except SqlError Outcome}

theorem commit_silent (commits : Commits store next flight result)
    (user : key.isSentinel = false)
    (silent : (announcements flight.request flight.nowMs result).filterMap
      (stateArriving key) = []) :
    ((flight.request.columns flight.nowMs).key ≠ key ∧
        next.db.stored key = store.db.stored key) ∨
      ∃ before after, store.db.stored key = some before ∧
        next.db.stored key = some after ∧
        after.currentState = before.currentState ∧
        (before.currentState = .working → Renews flight key before) := by
  have outcome := commits.outcome
  have appends : flight.request.Appends flight.nowMs store.db next.db :=
    WriteRequest.outcome_appends (by rw [outcome])
  by_cases own : (flight.request.columns flight.nowMs).key = key
  · refine .inr ?_
    subst own
    cases asked : flight.request with
    | event envelope precondition =>
        rw [asked] at outcome silent
        obtain ⟨before, present, after, admits, same, read⟩ :=
          announced_nothing outcome silent
        refine ⟨before, _, present, after, same, fun working => ?_⟩
        simp only [Renews, asked, commits.unsettled]
        refine ⟨rfl, admits, fun stale => ?_, same.trans working⟩
        rw [currentStateForRead_eq, if_pos ⟨working, stale⟩, working] at read
        cases read
    | recordingStarted => rw [asked] at user; cases user
    | recordingEnded recordingSessionId => rw [asked] at user; cases user
  · exact .inl ⟨own, appends.stored_ne own⟩

end Silent

/-! The invariant. -/

/-- The last frame of a session is up to date, and no write under way will make
it out of date without a word. -/
def Steady (world : World) (key : SessionKey) (stored : SessionState)
    (frame : SessionState × Origin) : Prop :=
  frame.1.currentState = stored.currentState ∨
    (stored.currentState = .working ∧ frame.1.currentState = .idle) ∧
      ∃ nowMs asOf, frame.2 = .snapshot nowMs asOf ∧ isStale stored nowMs ∧
        (∀ row ∈ world.store.db.events, row.key = key → row.eventId ≤ asOf) ∧
        nowMs ≤ world.clock ∧
        ∀ flight, world.store.inFlight = some flight → ¬ Renews flight key stored

structure Reflects (world : World) (conn : Conn) (seen : List ConnSeen)
    (key : SessionKey) : Prop where
  covered : Tracked key conn → Covered key conn
  waiting : ∀ state, (pending key (some conn) world.store).getLast? = some state →
    ∃ stored, world.store.db.stored key = some stored ∧
      state.currentState = stored.currentState
  steady : Tracked key conn → pending key (some conn) world.store = [] →
    ∀ stored, world.store.db.stored key = some stored →
      ∃ frame, (shown key (some conn) seen).getLast? = some frame ∧
        Steady world key stored frame

structure Mirroring (world : World) (conn : Conn) (seen : List ConnSeen) :
    Prop where
  clocked : ∀ topic states nowMs,
    conn.phase = .readingSnapshot topic states nowMs → nowMs ≤ world.clock
  sessions : ∀ key, key.isSentinel = false → Reflects world conn seen key
  topics : ∀ topic, MirrorsSince topic seen → topic ∈ conn.subscriptions ∧
    ∀ key stored, key.isSentinel = false →
      topic.coversStateSession key.sessionId = true →
      world.store.db.stored key = some stored →
      Tracked key conn ∨ pending key (some conn) world.store ≠ []

section Steady

variable {world next : World} {key : SessionKey} {stored : SessionState}
variable {frame : SessionState × Origin}

theorem Steady.current (steady : Steady world key stored frame) :
    Current world.store.db key stored frame := by
  rcases steady with same | ⟨lapsed, nowMs, asOf, origin, stale, last, _⟩
  · exact .inl same
  · refine .inr ⟨lapsed, ?_⟩
    rw [origin]
    exact ⟨stale, last⟩

/-- A write that begins reads a clock at which the session is stale already. -/
theorem Steady.aside (steady : Steady world key stored frame)
    (db : next.store.db = world.store.db) (later : world.clock ≤ next.clock)
    (begins : ∀ flight, next.store.inFlight = some flight →
      flight.result = none →
      world.store.inFlight = some flight ∨ flight.nowMs = world.clock) :
    Steady next key stored frame := by
  rcases steady with same |
    ⟨lapsed, nowMs, asOf, origin, stale, last, within, unrenewed⟩
  · exact .inl same
  · refine .inr ⟨lapsed, nowMs, asOf, origin, stale, ?_, ?_, ?_⟩
    · rw [db]
      exact last
    · exact le_trans within (by exact_mod_cast later)
    · intro flight busy renews
      unfold Renews at renews
      split at renews
      · rename_i asked unsettled
        rcases begins flight busy unsettled with before | now
        · refine unrenewed flight before ?_
          unfold Renews
          rw [asked, unsettled]
          exact renews
        · refine renews.2.2.1 ?_
          rw [now]
          exact isStale_mono within stale
      · exact renews

end Steady

/-! The steps of the store. -/

section Store

variable {world next : World} {conn : Conn} {seen : List ConnSeen}

theorem Mirroring.aside (mirroring : Mirroring world conn seen)
    (db : next.store.db = world.store.db)
    (transit : transit (some conn) next.store = transit (some conn) world.store)
    (later : world.clock ≤ next.clock)
    (begins : ∀ flight, next.store.inFlight = some flight →
      flight.result = none →
      world.store.inFlight = some flight ∨ flight.nowMs = world.clock) :
    Mirroring next conn seen where
  clocked := fun topic states nowMs reading =>
    le_trans (mirroring.clocked topic states nowMs reading)
      (by exact_mod_cast later)
  sessions := by
    intro key user
    have before := mirroring.sessions key user
    exact {
      covered := before.covered
      waiting := by
        rw [pending, transit, db]
        exact before.waiting
      steady := by
        rw [pending, transit, db]
        intro tracked nothing stored present
        obtain ⟨frame, last, steady⟩ := before.steady tracked nothing stored
          present
        exact ⟨frame, last, steady.aside db later begins⟩ }
  topics := by
    intro topic since
    rw [db]
    obtain ⟨subscribed, sessions⟩ := mirroring.topics topic since
    refine ⟨subscribed, fun key stored user covers present => ?_⟩
    rw [pending, transit]
    exact sessions key stored user covers present

variable {flight : InFlight WriterTask} {result : Except SqlError Outcome}

theorem Steady.commit {key : SessionKey} {before after : SessionState}
    {frame : SessionState × Origin} (steady : Steady world key before frame)
    (commits : Commits world.store next.store flight result)
    (clock : next.clock = world.clock)
    (elsewhere : (flight.request.columns flight.nowMs).key ≠ key ∧
        after = before ∨
      after.currentState = before.currentState ∧
        (before.currentState = .working → Renews flight key before)) :
    Steady next key after frame := by
  have same : after.currentState = before.currentState := by
    rcases elsewhere with ⟨_, rfl⟩ | ⟨same, _⟩
    · rfl
    · exact same
  rcases steady with upToDate |
    ⟨lapsed, nowMs, asOf, origin, stale, last, within, unrenewed⟩
  · exact .inl (upToDate.trans same.symm)
  · rcases elsewhere with ⟨other, rfl⟩ | ⟨_, renews⟩
    · have appends : flight.request.Appends flight.nowMs world.store.db
          next.store.db := WriteRequest.outcome_appends (by rw [commits.outcome])
      refine .inr ⟨lapsed, nowMs, asOf, origin, stale, ?_, clock ▸ within, ?_⟩
      · intro row member own
        rw [appends.events, List.mem_append, List.mem_singleton] at member
        rcases member with member | rfl
        · exact last row member own
        · exact absurd own other
      · intro flight busy
        rw [commits.settled, Option.some.injEq] at busy
        subst busy
        unfold Renews
        split
        · rename_i settled
          cases settled
        · exact id
    · exact absurd (renews lapsed.1) (unrenewed flight commits.busy)

/-- A commit either puts the new state on its way or changes nothing that its
readers see. -/
theorem Reflects.commit {key : SessionKey} (reflects : Reflects world conn seen key)
    (user : key.isSentinel = false)
    (commits : Commits world.store next.store flight result)
    (clock : next.clock = world.clock) : Reflects next conn seen key := by
  have grows : pending key (some conn) next.store =
      pending key (some conn) world.store ++
        (announcements flight.request flight.nowMs result).filterMap
          (stateArriving key) := by
    rw [pending, pending, commits.transit, List.filterMap_append]
  rcases announced_stored key commits.outcome with
    silent | ⟨state, _, stored, announced⟩
  · have still : pending key (some conn) next.store =
        pending key (some conn) world.store := by
      rw [grows, silent, List.append_nil]
    have change := commit_silent commits user silent
    exact {
      covered := reflects.covered
      waiting := by
        intro state last
        rw [still] at last
        obtain ⟨before, present, same⟩ := reflects.waiting state last
        rcases change with ⟨_, stays⟩ | ⟨old, after, found, left, kept, _⟩
        · exact ⟨before, stays ▸ present, same⟩
        · rw [found, Option.some.injEq] at present
          subst present
          exact ⟨after, left, same.trans kept.symm⟩
      steady := by
        intro tracked nothing after present
        rw [still] at nothing
        rcases change with ⟨other, stays⟩ | ⟨old, new, found, left, kept, renews⟩
        · obtain ⟨frame, last, steady⟩ := reflects.steady tracked nothing after
            (stays ▸ present)
          exact ⟨frame, last, steady.commit commits clock (.inl ⟨other, rfl⟩)⟩
        · rw [left, Option.some.injEq] at present
          subst present
          obtain ⟨frame, last, steady⟩ := reflects.steady tracked nothing old
            found
          exact ⟨frame, last, steady.commit commits clock
            (.inr ⟨kept, renews⟩)⟩ }
  · rw [announced] at grows
    exact {
      covered := reflects.covered
      waiting := by
        intro newest last
        rw [grows, List.getLast?_concat, Option.some.injEq] at last
        exact ⟨state, stored, by rw [last]⟩
      steady := by
        intro _ nothing
        rw [grows] at nothing
        simp at nothing }

theorem Mirroring.commit (mirroring : Mirroring world conn seen)
    (commits : Commits world.store next.store flight result)
    (clock : next.clock = world.clock) : Mirroring next conn seen where
  clocked := by
    rw [clock]
    exact mirroring.clocked
  sessions := fun key user =>
    (mirroring.sessions key user).commit user commits clock
  topics := by
    intro topic since
    obtain ⟨subscribed, sessions⟩ := mirroring.topics topic since
    refine ⟨subscribed, fun key after user covers present => ?_⟩
    rw [pending, commits.transit, List.filterMap_append]
    rcases announced_stored key commits.outcome with
      silent | ⟨state, _, _, announced⟩
    · rw [silent, List.append_nil]
      rcases commit_silent commits user silent with
        ⟨_, stays⟩ | ⟨before, _, found, _⟩
      · exact sessions key after user covers (stays ▸ present)
      · exact sessions key before user covers found
    · rw [announced]
      exact .inr (by simp)

end Store

/-! The steps of the connection. -/

section Conn

variable {config : WsConfig} {world : World} {conn next : Conn}
variable {label : ConnLabel} {seen out : List ConnSeen}

theorem moves_subscribes
    (moves : Conn.Moves (world.view config) conn label next out)
    (quiet : label.selects = false) (topic : Topic)
    (states : List SessionCurrentState) : .subscribed topic states ∉ out := by
  cases moves with
  | @lagged _ _ _ _ _ _ _ _ report =>
      cases report <;> simp [Conn.droppedFrames]
  | @drained _ _ drain => cases drain <;> simp [Conn.endDrain]
  | ended _ reason => cases reason <;> simp
  | readSnapshot => cases quiet
  | greeted | poked | drains | sent | unsent | filtered | readClock | emitted
    | unemitted | saidClose => simp

theorem pending_view (key : SessionKey) (config : WsConfig) (conn : Conn) :
    pending key (some conn) world.store =
      unread key (world.view config) conn ++
        world.store.owed.filterMap (stateArriving key) :=
  List.filterMap_append

theorem Reflects.receive {key : SessionKey} {states : List SessionState}
    (reflects : Reflects world conn seen key)
    (passes : Passes key (world.view config) conn next out states) :
    Reflects { world with conn := some next } next (seen ++ out) key where
  covered := passes.covered
  waiting := by
    intro state last
    have before := reflects.waiting state
    rw [pending_view key config, passes.takes, List.append_assoc,
      ← pending_view] at before
    rw [List.getLast?_append, last] at before
    exact before rfl
  steady := by
    intro tracked nothing stored present
    have before : pending key (some conn) world.store = states := by
      rw [pending_view key config, passes.takes, List.append_assoc,
        ← pending_view]
      rw [show pending key (some next) world.store = [] from nothing,
        List.append_nil]
    have frames : shown key (some next) (seen ++ out) =
        shown key (some conn) seen ++ states.map (·, .live) := by
      simp only [shown, Option.elim_some, List.filterMap_append,
        List.append_assoc]
      rw [passes.shown tracked]
    rw [frames]
    rcases List.eq_nil_or_concat states with rfl | ⟨front, state, rfl⟩
    · have old := (passes.fresh tracked).resolve_right (by simp)
      obtain ⟨frame, last, steady⟩ := reflects.steady old before stored present
      exact ⟨frame, by simpa using last, steady⟩
    · obtain ⟨found, own, same⟩ := reflects.waiting state (by rw [before]; simp)
      rw [show world.store.db.stored key = some stored from present,
        Option.some.injEq] at own
      subst own
      exact ⟨(state, .live), by simp, .inl same⟩

theorem Mirroring.receive (mirroring : Mirroring world conn seen)
    (moves : Conn.Moves (world.view config) conn label next out)
    (quiet : label.selects = false) (open_ : next.phase ≠ .closed) :
    Mirroring { world with conn := some next } next (seen ++ out) where
  clocked := by
    intro topic states nowMs reading
    cases moves with
    | readClock _ within =>
        cases reading
        exact within.2
    | drained =>
        rename_i drain _ _
        cases drain <;> cases reading
    | emitted =>
        rename_i frames _
        cases frames <;> cases reading
    | readSnapshot => cases quiet
    | lagged _ _ _ lives =>
        rcases lives with same | ⟨closed, _⟩
        · exact mirroring.clocked topic states nowMs (same ▸ reading)
        · exact absurd closed open_
    | sent =>
        rw [Conn.delivered_phase] at reading
        exact mirroring.clocked topic states nowMs reading
    | poked | filtered => exact mirroring.clocked topic states nowMs reading
    | greeted | drains | ended | unsent | unemitted | saidClose => cases reading
  sessions := by
    intro key user
    have before := mirroring.sessions key user
    obtain ⟨states, passes⟩ := moves_passes moves quiet open_ before.covered
    exact before.receive passes
  topics := by
    intro topic since
    rcases Trace.since_append.mp since with now | ⟨earlier, kept⟩
    · obtain ⟨early, here, late, rfl, rfl, _⟩ := now
      exact absurd (by simp) (moves_subscribes moves quiet topic [])
    · obtain ⟨subscribed, sessions⟩ := mirroring.topics topic earlier
      have still : topic ∈ next.subscriptions := by
        rw [moves_topics moves]
        exact topics_kept subscribed fun member => (kept _ member).1 rfl
      refine ⟨still, fun key stored user covers present => ?_⟩
      have before := mirroring.sessions key user
      obtain ⟨states, passes⟩ := moves_passes moves quiet open_ before.covered
      have old := sessions key stored user covers present
      by_cases nothing : pending key (some next) world.store = []
      · refine .inl (passes.kept (fun here member => (kept here member).2) ?_ ?_)
        · exact List.any_eq_true.mpr ⟨topic, still, covers⟩
        · rw [pending_view key config, passes.takes, List.append_assoc,
            ← pending_view, nothing, List.append_nil] at old
          exact old
      · exact .inr nothing

end Conn

/-! The SELECT of a subscribe. -/

section Select

variable {config : WsConfig} {world : World} {conn : Conn}
variable {seen : List ConnSeen} {topic : Topic}
variable {states : List SessionCurrentState} {nowMs : Int}

theorem burst_selected (key : SessionKey) :
    burstShown key
        (conn.readSnapshot (world.view config) topic states nowMs true).1 =
      ((selected world conn topic states nowMs true).filterMap
        (ofFrame key)).map (·, .snapshot nowMs world.store.db.eventSeq) :=
  burstShown_afterBurst rfl

theorem tracked_selected (key : SessionKey) :
    Tracked key
        (conn.readSnapshot (world.view config) topic states nowMs true).1 ↔
      key ∈ conn.snapshottedKeys ∨
        (selected world conn topic states nowMs true).filterMap (ofFrame key) ≠
          [] := by
  rw [Tracked, burst_selected, ne_eq, List.map_eq_nil_iff]
  rfl

theorem selected_tracks (wellFormed : world.store.db.WellFormed)
    {key : SessionKey} {stored : SessionState}
    (shows : Shows topic conn.snapshottedKeys nowMs states world.store.db key
      stored) :
    (selected world conn topic states nowMs true).filterMap (ofFrame key) ≠
      [] := by
  have member : StateFrame.mk key.source key.sessionId
      { stored with currentState := currentStateForRead stored nowMs } ∈
        selected world conn topic states nowMs true :=
    (mem_snapshotForTopic wellFormed).mpr ⟨stored, shows, rfl⟩
  refine List.ne_nil_of_mem (a := ?_) (List.mem_filterMap.mpr ⟨_, member, ?_⟩)
  · exact { stored with currentState := currentStateForRead stored nowMs }
  · exact if_pos rfl

/-- What the SELECT shows stays true unless a write under way renews it. -/
theorem selected_steady (wellFormed : world.store.db.WellFormed)
    (within : nowMs ≤ world.clock) (present : world.conn = some conn)
    (reading : conn.phase = .readingSnapshot topic states nowMs)
    (unrenewed : NoneRenewed world) {key : SessionKey} {stored : SessionState}
    (shows : Shows topic conn.snapshottedKeys nowMs states world.store.db key
      stored) :
    Steady world key stored
      ({ stored with currentState := currentStateForRead stored nowMs },
        .snapshot nowMs world.store.db.eventSeq) := by
  rcases currentStateForRead_cases stored nowMs with
    same | ⟨working, stale, idle⟩
  · exact .inl same
  · refine .inr ⟨⟨working, idle⟩, nowMs, _, rfl, stale, ?_, within, ?_⟩
    · exact fun row member _ => wellFormed.within row member
    · intro flight busy renews
      have own : (flight.request.columns flight.nowMs).key = key := by
        unfold Renews at renews
        split at renews
        · rename_i asked _
          rw [asked]
          exact renews.1
        · cases renews
      subst own
      simp only [NoneRenewed, present, busy, reading] at unrenewed
      rcases unrenewed stored shows.stored shows with same | safe
      · rw [idle, working] at same
        cases same
      · exact safe renews

theorem Mirroring.select (mirroring : Mirroring world conn seen)
    (wellFormed : world.store.db.WellFormed)
    (present : world.conn = some conn)
    (reading : conn.phase = .readingSnapshot topic states nowMs)
    (unrenewed : NoneRenewed world) :
    Mirroring
      { world with conn := some (conn.readSnapshot (world.view config) topic
          states nowMs true).1 }
      (conn.readSnapshot (world.view config) topic states nowMs true).1
      (seen ++ [.subscribed topic states]) := by
  have idle : ∀ key, burstShown key conn = [] := fun key =>
    burstShown_eq_nil fun _ _ _ emitting => by
      rw [reading] at emitting
      cases emitting
  have within := mirroring.clocked topic states nowMs reading
  exact {
    clocked := by
      intro other filter now again
      simp only [Conn.readSnapshot, Conn.afterBurst] at again
      split at again <;> cases again
    sessions := by
      intro key user
      have before := mirroring.sessions key user
      exact {
        covered := by
          intro tracked
          rcases (tracked_selected key).mp tracked with known | chosen
          · obtain ⟨other, member, covers⟩ :=
              List.any_eq_true.mp (before.covered (.inl known))
            exact List.any_eq_true.mpr
              ⟨other, List.mem_insert_of_mem member, covers⟩
          · obtain ⟨state, member⟩ := List.exists_mem_of_ne_nil _ chosen
            obtain ⟨_, stored, shows, _⟩ := selected_shows wellFormed member
            exact List.any_eq_true.mpr
              ⟨topic, List.mem_insert_self, shows.covered⟩
        waiting := before.waiting
        steady := by
          intro tracked nothing stored own
          have frames : shown key (some (conn.readSnapshot (world.view config)
              topic states nowMs true).1) (seen ++ [.subscribed topic states]) =
              shown key (some conn) seen ++
                ((selected world conn topic states nowMs true).filterMap
                  (ofFrame key)).map
                  (·, .snapshot nowMs world.store.db.eventSeq) := by
            simp only [shown, Option.elim_some, List.filterMap_append, idle,
              List.append_nil]
            rw [burst_selected, List.filterMap_cons_none rfl, List.filterMap_nil,
              List.append_nil]
          rw [frames]
          rcases List.eq_nil_or_concat ((selected world conn topic states nowMs
            true).filterMap (ofFrame key)) with none_ | ⟨front, state, chosen⟩
          · have known := ((tracked_selected key).mp tracked).resolve_right
              (fun chosen => chosen none_)
            obtain ⟨frame, last, steady⟩ := before.steady (.inl known) nothing
              stored own
            rw [none_]
            exact ⟨frame, by simpa using last, steady⟩
          · have member : state ∈ (selected world conn topic states nowMs
                true).filterMap (ofFrame key) := by simp [chosen]
            obtain ⟨_, found, shows, rfl⟩ := selected_shows wellFormed member
            rw [shows.stored, Option.some.injEq] at own
            subst own
            rw [chosen]
            exact ⟨_, by simp, selected_steady wellFormed within present reading
              unrenewed shows⟩ }
    topics := by
      intro other since
      rcases Trace.since_append.mp since with now | ⟨earlier, _⟩
      · have same := Trace.since_singleton.mp now
        cases same
        refine ⟨List.mem_insert_self, fun key stored user covers own => ?_⟩
        refine .inl ((tracked_selected key).mpr ?_)
        by_cases known : key ∈ conn.snapshottedKeys
        · exact .inl known
        · exact .inr (selected_tracks wellFormed
            ⟨own, user, known, covers, rfl⟩)
      · obtain ⟨subscribed, sessions⟩ := mirroring.topics other earlier
        refine ⟨List.mem_insert_of_mem subscribed, fun key stored user covers
          own => ?_⟩
        rcases sessions key stored user covers own with tracked | waiting
        · exact .inl ((tracked_selected key).mpr
            (.inl ((tracked_idle (idle key)).mp tracked)))
        · exact .inr waiting }

end Select

section Run

variable {config : WsConfig} {world next : World} {label : WorldLabel}
variable {seen out : List WorldSeen}

def Mirrors (world : World) (seen : List ConnSeen) : Prop :=
  ∀ conn, world.conn = some conn → conn.phase ≠ .closed →
    Mirroring world conn seen

theorem mirroring_upgraded {hello : HelloFrame} (holding : world.store.Holding) :
    Mirroring
      { world with
        hello := none
        conn := some (Conn.upgraded hello world.store.hub.length) }
      (Conn.upgraded hello world.store.hub.length) [.upgraded] := by
  have untracked : ∀ key, ¬ Tracked key
      (Conn.upgraded hello world.store.hub.length) := by
    intro key tracked
    rcases tracked with known | chosen
    · cases known
    · exact chosen rfl
  exact {
    clocked := by
      intro topic states nowMs reading
      cases reading
    sessions := by
      intro key user
      exact {
        covered := fun tracked => absurd tracked (untracked key)
        waiting := by
          intro state last
          have member : state ∈ world.store.owed.filterMap (stateArriving key) := by
            have inside := List.mem_of_getLast? last
            simpa [pending, transit, Conn.upgraded] using inside
          exact ⟨state, owed_stored holding member, rfl⟩
        steady := fun tracked => absurd tracked (untracked key) }
    topics := by
      intro topic since
      cases Trace.since_singleton.mp since }

theorem Mirrors.step (mirrors : Mirrors world (connSeen seen))
    (connected : Connected world seen) (holding : world.store.Holding)
    (wellFormed : world.store.db.WellFormed) (ok : keepsMirrors world label)
    (moves : World.Moves config world label next out) :
    Mirrors next (connSeen (seen ++ out)) := by
  intro conn present open_
  rw [connSeen_append]
  have aside : next.conn = world.conn → connSeen out = [] →
      next.store.db = world.store.db →
      transit (some conn) next.store = transit (some conn) world.store →
      world.clock ≤ next.clock →
      (∀ flight, next.store.inFlight = some flight → flight.result = none →
        world.store.inFlight = some flight ∨ flight.nowMs = world.clock) →
      Mirroring next conn (connSeen seen ++ connSeen out) := by
    intro same silent db transit later begins
    rw [silent, List.append_nil]
    exact (mirrors conn (same ▸ present) open_).aside db transit later begins
  cases moves with
  | clock ms => exact aside rfl rfl rfl rfl ok.1.1 fun _ busy _ => .inl busy
  | begin _ _ taken =>
      refine aside rfl (by simp) ?_ (transit_begin taken) (le_refl _) ?_
      · obtain ⟨_, _, _, rfl⟩ := Store.begin_cases taken
        rfl
      · obtain ⟨_, _, _, rfl⟩ := Store.begin_cases taken
        intro flight busy _
        cases busy
        exact .inr rfl
  | transact taken =>
      obtain ⟨flight, result, commits | aborts⟩ := transact_settles taken
      · rw [connSeen_store, List.append_nil]
        exact (mirrors conn present open_).commit commits rfl
      · refine aside rfl (by simp) aborts.db aborts.transit (le_refl _) ?_
        intro other busy unsettled
        rw [aborts.settled, Option.some.injEq] at busy
        subst busy
        cases unsettled
  | finish taken =>
      have within : ∀ other, some conn = some other →
          other.next ≤ world.store.hub.length := by
        intro other same
        cases same
        unfold Connected at connected
        rw [show world.conn = some conn from present] at connected
        exact connected.within
      refine aside rfl (by simp) ?_ ((transit_finish within taken).2 rfl)
        (le_refl _) ?_
      · obtain ⟨_, _, _, _, _, rfl⟩ := Store.finish_cases taken
        rfl
      · obtain ⟨_, _, _, _, _, rfl⟩ := Store.finish_cases taken
        intro flight busy
        cases busy
  | flagged => exact aside rfl rfl rfl rfl (le_refl _) fun _ busy _ => .inl busy
  | upgraded absent =>
      unfold Connected at connected
      rw [absent] at connected
      cases present
      rw [connected]
      exact mirroring_upgraded holding
  | @conn label before after moved was moves =>
      cases present
      rw [connSeen_conn]
      have running : before.phase ≠ .closed := fun closed =>
        open_ (moves_closed moves closed).1
      have mirroring := mirrors before was running
      by_cases quiet : label.selects = false
      · exact mirroring.receive moves quiet open_
      · cases moves with
        | @readSnapshot topic states nowMs read reading =>
            cases read with
            | false => exact absurd ok.1.2 Bool.false_ne_true
            | true => exact mirroring.select wellFormed was reading ok.2
        | ended other | poked other | drains other => exact absurd other quiet
        | greeted | sent | unsent | filtered | lagged | drained | readClock
          | emitted | unemitted | saidClose => exact absurd rfl quiet

theorem mirrors_of_run {db : Db} {hub : List BroadcastEnvelope} {clock : Nat}
    {final : World}
    (run : (World.machine config).Run keepsMirrors (World.initial db hub clock)
      final seen)
    (wellFormed : db.WellFormed) : Mirrors final (connSeen seen) := by
  refine run.invariant (fun world seen => Mirrors world (connSeen seen)) ?_ ?_
  · intro conn present
    cases present
  · intro middle next seen out label before mirrors ok taken
    have ledger := World.ledger before wellFormed rfl
    exact mirrors.step (connected_of_run before) ledger.holding
      (ledger.chained.wellFormed wellFormed) ok (World.step_moves taken)

end Run

theorem AtRest.pending {world : World} {conn : Conn} {key : SessionKey}
    (atRest : AtRest world conn key) :
    pending key (some conn) world.store = [] := by
  simp [Daemon.pending, transit, Store.owed, atRest.idle,
    List.drop_eq_nil_of_le atRest.caughtUp]

theorem AtRest.burst {world : World} {conn : Conn} {key : SessionKey}
    (atRest : AtRest world conn key) : burstShown key conn = [] := by
  have finished := atRest.finished
  unfold burstShown
  unfold Conn.burst at finished
  split
  · rename_i emitting
    rw [emitting] at finished
    rw [List.map_eq_nil_iff, List.filterMap_eq_nil_iff]
    exact fun frame member => if_neg (finished frame member)
  · rfl

/-- Whatever the interleaving, as long as no SELECT runs beside a write that
renews what it shows as lapsed. -/
theorem mirror_converges {config : WsConfig} {db : Db}
    {hub : List BroadcastEnvelope} {clock : Nat} {final : World}
    {seen : List WorldSeen}
    (run : (World.machine config).Run keepsMirrors (World.initial db hub clock)
      final seen)
    (wellFormed : db.WellFormed) {topic : Topic} {conn : Conn}
    {key : SessionKey} {stored : SessionState}
    (since : MirrorsSince topic (connSeen seen))
    (user : key.isSentinel = false)
    (covers : topic.coversStateSession key.sessionId = true)
    (present : final.store.db.stored key = some stored)
    (atRest : AtRest final conn key) :
    Mirrored final (connSeen seen) key stored := by
  have mirroring := mirrors_of_run run wellFormed conn atRest.present atRest.open_
  have tracked := ((mirroring.topics topic since).2 key stored user covers
    present).resolve_right (fun waiting => waiting atRest.pending)
  obtain ⟨frame, last, steady⟩ := (mirroring.sessions key user).steady tracked
    atRest.pending stored present
  rw [shown, Option.elim_some, atRest.burst, List.append_nil] at last
  exact ⟨frame, last, steady.current⟩

/-- A session turns stale, and a write renews it around the SELECT of a subscribe:
it begins while the session is fresh or once the snapshot has been shown. -/
def renewal (early : Bool) : List WorldLabel :=
  let renew := .begin .ingest (.event (System.bareHook "a" .preToolUse none) none)
  [.clock 1000] ++
    writing .ingest (System.bareHook "a" .userPromptSubmit none) ++
    (if early then [renew] else []) ++
    .clock 302000 :: opening "state.session.*" [] ++
    [.conn (.emit true)] ++
    (if early then [] else [renew]) ++
    [.transact FaultPlan.none, .finish, .conn (.receive 0 true),
      .conn (.receive 0 true)].take (if early then 3 else 4)

/-- A write that has read the clock before the session turned stale restores
`Working` after the SELECT has shown `Idle`, and announces nothing. -/
theorem mirror_shows_renewed_session_idle :
    ∃ (final : World) (seen : List WorldSeen) (conn : Conn)
      (stored : SessionState),
      (World.machine roomyConfig).Run readsSucceed (World.initial Db.empty [] 0)
        final seen ∧
      final.store.db.stored ⟨"claude", "a"⟩ = some stored ∧
      MirrorsSince .stateAll (connSeen seen) ∧
      AtRest final conn ⟨"claude", "a"⟩ ∧
      ¬ Mirrored final (connSeen seen) ⟨"claude", "a"⟩ stored := by
  have meets : (World.machine roomyConfig).execMeets readsSucceed
      (World.initial Db.empty [] 0) (renewal true) := by
    decide
  have ⟨final, seen, run, checked⟩ := Machine.exec_check meets
    (fun result : World × List WorldSeen =>
      decide (∃ stored ∈ result.1.store.db.stored ⟨"claude", "a"⟩,
        ∃ conn ∈ result.1.conn, MirrorsSince .stateAll (connSeen result.2) ∧
          AtRest result.1 conn ⟨"claude", "a"⟩ ∧
          ¬ Mirrored result.1 (connSeen result.2) ⟨"claude", "a"⟩ stored))
    (by decide)
  obtain ⟨stored, present, conn, _, since, atRest, wrong⟩ :=
    of_decide_eq_true checked
  exact ⟨final, seen, conn, stored, run, present, since, atRest, wrong⟩

theorem mirror_converges_renewal :
    ∃ (final : World) (seen : List WorldSeen) (stored : SessionState),
      ((connSeen seen).filterMap (stateShown ⟨"claude", "a"⟩)).length = 2 ∧
      Mirrored final (connSeen seen) ⟨"claude", "a"⟩ stored := by
  have meets : (World.machine roomyConfig).execMeets keepsMirrors
      (World.initial Db.empty [] 0) (renewal false) := by
    decide
  have ⟨final, seen, run, checked⟩ := Machine.exec_check meets
    (fun result : World × List WorldSeen =>
      decide (∃ stored ∈ result.1.store.db.stored ⟨"claude", "a"⟩,
        ∃ conn ∈ result.1.conn, MirrorsSince .stateAll (connSeen result.2) ∧
          AtRest result.1 conn ⟨"claude", "a"⟩ ∧
          ((connSeen result.2).filterMap
            (stateShown ⟨"claude", "a"⟩)).length = 2))
    (by decide)
  obtain ⟨stored, present, conn, _, since, atRest, two⟩ :=
    of_decide_eq_true checked
  exact ⟨final, seen, stored, two, mirror_converges run Db.wellFormed_empty
    since rfl rfl present atRest⟩

end Bowerbird.Daemon
