import Bowerbird.Daemon.Coverage

namespace Bowerbird.Daemon

open Protocol Foundation Projection Api

/-! The bursts that a client is sent: for each subscribe that took effect, the
sessions of the snapshot frames up to the next one. -/

structure Burst where
  topic : Topic
  states : List SessionCurrentState
  keys : List SessionKey
  deriving Repr, DecidableEq

def isSubscribe : ConnSeen → Bool
  | .subscribed _ _ => true
  | _ => false

/-- The rest of the burst that `seen` begins in; `pending` is still to be sent
at its end. -/
def restOfBurst (pending : List SessionKey) : List ConnSeen → List SessionKey
  | [] => pending
  | .subscribed _ _ :: _ => []
  | here :: rest => (snapshotKey? here).toList ++ restOfBurst pending rest

def burstsWith (pending : List SessionKey) : List ConnSeen → List Burst
  | [] => []
  | .subscribed topic states :: rest =>
      ⟨topic, states, restOfBurst pending rest⟩ :: burstsWith pending rest
  | _ :: rest => burstsWith pending rest

def bursts : List ConnSeen → List Burst :=
  burstsWith []

/-- The read-facing state of the session passes the filter of a burst whose topic
covers it. -/
def Burst.Admits (db : Db) (nowMs : Int) (key : SessionKey) (burst : Burst) :
    Prop :=
  ∃ stored ∈ db.stored key, Shows burst.topic [] nowMs burst.states db key stored

instance (db : Db) (nowMs : Int) (key : SessionKey) (burst : Burst) :
    Decidable (burst.Admits db nowMs key) :=
  inferInstanceAs (Decidable (∃ stored ∈ db.stored key, _))

/-- The burst sends the session once if it is the first to admit it, and not at
all otherwise. -/
def SentAtFirst (db : Db) (nowMs : Int) (key : SessionKey)
    (earlier : List Burst) (burst : Burst) : Prop :=
  burst.keys.count key =
    if burst.Admits db nowMs key ∧
        ∀ other ∈ earlier, ¬ other.Admits db nowMs key then 1
    else 0

instance (db : Db) (nowMs : Int) (key : SessionKey) (earlier : List Burst)
    (burst : Burst) : Decidable (SentAtFirst db nowMs key earlier burst) :=
  inferInstanceAs (Decidable (_ = _))

def SentOnceAtFirst (db : Db) (nowMs : Int) (key : SessionKey)
    (seen : List ConnSeen) : Prop :=
  Trace.Each (SentAtFirst db nowMs key) (bursts seen)

instance (db : Db) (nowMs : Int) (key : SessionKey) (seen : List ConnSeen) :
    Decidable (SentOnceAtFirst db nowMs key seen) :=
  inferInstanceAs (Decidable (Trace.Each _ _))

section Bursts

variable {pending : List SessionKey} {seen out : List ConnSeen}

theorem restOfBurst_append :
    restOfBurst pending (seen ++ out) =
      restOfBurst (restOfBurst pending out) seen := by
  induction seen with
  | nil => rfl
  | cons here rest induction =>
      cases here with
      | subscribed topic states => rfl
      | upgraded | frame | dequeued | lagged | drained | unsubscribed
        | wsClose =>
          simp only [List.cons_append, restOfBurst]
          rw [induction]

theorem burstsWith_append :
    burstsWith pending (seen ++ out) =
      burstsWith (restOfBurst pending out) seen ++ burstsWith pending out := by
  induction seen with
  | nil => rfl
  | cons here rest induction =>
      cases here with
      | subscribed topic states =>
          simp only [List.cons_append, burstsWith]
          rw [induction, restOfBurst_append]
      | upgraded | frame | dequeued | lagged | drained | unsubscribed
        | wsClose => exact induction

/-- What belongs to no burst changes none. -/
theorem burstsWith_silent
    (silent : ∀ here ∈ out, isSubscribe here = false ∧ snapshotKey? here = none) :
    burstsWith pending (seen ++ out) = burstsWith pending seen := by
  have within : restOfBurst pending out = pending ∧ burstsWith pending out = [] := by
    induction out with
    | nil => exact ⟨rfl, rfl⟩
    | cons here rest induction =>
        obtain ⟨kept, none_⟩ := induction fun other member =>
          silent other (List.mem_cons_of_mem _ member)
        obtain ⟨stays, unshown⟩ := silent here (List.mem_cons_self ..)
        cases here with
        | subscribed topic states => cases stays
        | frame => exact ⟨by simp [restOfBurst, unshown, kept], none_⟩
        | upgraded | dequeued | lagged | drained | unsubscribed | wsClose =>
            exact ⟨by simp [restOfBurst, snapshotKey?, kept], none_⟩
  rw [burstsWith_append, within.1, within.2, List.append_nil]

theorem burstsWith_emitted {frame : StateFrame} {nowMs asOf : Int} :
    burstsWith pending (seen ++ [.frame (.state frame) (.snapshot nowMs asOf)]) =
      burstsWith (frame.key :: pending) seen := by
  rw [burstsWith_append]
  exact List.append_nil _

theorem burstsWith_subscribed {topic : Topic}
    {states : List SessionCurrentState} :
    burstsWith pending (seen ++ [.subscribed topic states]) =
      bursts seen ++ [⟨topic, states, pending⟩] :=
  burstsWith_append

end Bursts

/-! How often a burst sends a session. -/

section Count

variable {topic : Topic} {keys : List SessionKey} {nowMs : Int}
variable {states : List SessionCurrentState} {db : Db} {key : SessionKey}

theorem mem_burst_keys (wellFormed : db.WellFormed) :
    key ∈ (snapshotForTopic topic keys nowMs states db).map StateFrame.key ↔
      Burst.Admits db nowMs key ⟨topic, states, []⟩ ∧ key ∉ keys := by
  constructor
  · intro inside
    obtain ⟨frame, member, rfl⟩ := List.mem_map.mp inside
    obtain ⟨stored, shows, _⟩ := (mem_snapshotForTopic wellFormed).mp member
    exact ⟨⟨stored, shows.stored,
      { shows with uncovered := List.not_mem_nil }⟩, shows.uncovered⟩
  · intro admitted
    obtain ⟨⟨stored, _, shows⟩, unheld⟩ := admitted
    exact List.mem_map.mpr ⟨⟨key.source, key.sessionId, _⟩,
      (mem_snapshotForTopic wellFormed).mpr
        ⟨stored, { shows with uncovered := unheld }, rfl⟩, rfl⟩

theorem count_burst_keys (wellFormed : db.WellFormed) :
    ((snapshotForTopic topic keys nowMs states db).map StateFrame.key).count key =
      if Burst.Admits db nowMs key ⟨topic, states, []⟩ ∧ key ∉ keys then 1
      else 0 := by
  have distinct : ((snapshotForTopic topic keys nowMs states db).map
      StateFrame.key).Nodup := snapshotForTopic_keyed wellFormed.keyed
  rw [distinct.count]
  exact if_congr (mem_burst_keys wellFormed) rfl rfl

end Count

/-- The sessions of the frames that are still to be sent. -/
def pendingKeys (conn : Conn) : List SessionKey :=
  conn.burst.map StateFrame.key

/-- Nothing of the session but snapshots, and no end of a coverage. -/
def leavesCoverage (key : SessionKey) (here : ConnSeen) : Prop :=
  isUnsubscribe here = false ∧ isLag here = false ∧ liveKey? here ≠ some key

/-- Held, or about to be sent. -/
def HeldOrPending (key : SessionKey) (conn : Conn) : Prop :=
  key ∈ conn.snapshottedKeys ∨ key ∈ pendingKeys conn

section Step

variable {db : Db} {key : SessionKey} {nowMs : Int} {view : View}
variable {conn next : Conn} {label : ConnLabel} {late out : List ConnSeen}

theorem pendingKeys_resting (rests : ∀ nowMs asOf frames,
    conn.phase ≠ .emitting nowMs asOf frames) : pendingKeys conn = [] := by
  unfold pendingKeys Conn.burst
  split
  · rename_i emitting
    exact absurd emitting (rests _ _ _)
  · rfl

theorem pendingKeys_receiving (receives : Conn.receiving conn.phase = true) :
    pendingKeys conn = [] :=
  congrArg (List.map StateFrame.key) (burst_receiving receives)

theorem pendingKeys_emitting {now asOf : Int} {frame : StateFrame}
    {frames : List StateFrame}
    (emitting : conn.phase = .emitting now asOf (frame :: frames)) :
    pendingKeys conn = frame.key :: frames.map StateFrame.key := by
  rw [pendingKeys, Conn.burst, emitting]
  rfl

theorem pendingKeys_afterBurst {now asOf : Int} {frames : List StateFrame}
    (phase : conn.phase = Conn.afterBurst now asOf frames) :
    pendingKeys conn = frames.map StateFrame.key :=
  congrArg (List.map StateFrame.key) (burst_afterBurst phase)

/-- Between two SELECTs the bursts stay as they are, with what is pending. -/
theorem moves_bursts (moves : Conn.Moves view conn label next out)
    (unselected : label.selects = false) (open_ : next.phase ≠ .closed) :
    burstsWith (pendingKeys next) (late ++ out) =
      burstsWith (pendingKeys conn) late := by
  cases moves with
  | @sent _ envelope receives =>
      rw [pendingKeys_receiving receives,
        pendingKeys_receiving (by simpa using receives)]
      refine burstsWith_silent ?_
      cases envelope <;> simp [isSubscribe, snapshotKey?, envelopeFrame]
  | filtered => exact burstsWith_silent (by simp [isSubscribe, snapshotKey?])
  | @lagged _ _ _ _ _ _ _ phase report receives _ _ lives =>
      have same := lives.resolve_right fun closed => open_ closed.1
      subst same
      change burstsWith (pendingKeys conn) _ = _
      refine burstsWith_silent ?_
      cases report <;> simp [Conn.droppedFrames, isSubscribe, snapshotKey?]
  | @drained _ _ drain draining =>
      have idle : pendingKeys conn = [] :=
        pendingKeys_receiving (by rw [draining]; rfl)
      rw [idle]
      cases drain with
      | subscribe | unsubscribe | shutdown =>
          refine burstsWith_silent ?_
          simp [Conn.endDrain, isSubscribe, snapshotKey?]
  | @emitted now asOf frame frames emitting =>
      rw [pendingKeys_emitting emitting, pendingKeys_afterBurst rfl,
        burstsWith_emitted]
  | poked => exact burstsWith_silent (by simp)
  | readSnapshot => cases unselected
  | unsent | unemitted | saidClose | ended => exact absurd rfl open_
  | greeted phase | drains _ phase | readClock phase =>
      rw [@pendingKeys_resting conn (by rw [phase]; simp)]
      exact burstsWith_silent (by simp [isSubscribe, snapshotKey?])

theorem moves_heldOrPending (moves : Conn.Moves view conn label next out)
    (unselected : label.selects = false) (open_ : next.phase ≠ .closed)
    (leaves : ∀ here ∈ out, leavesCoverage key here) :
    HeldOrPending key next ↔ HeldOrPending key conn := by
  unfold HeldOrPending
  cases moves with
  | @sent _ envelope receives =>
      rw [pendingKeys_receiving receives,
        pendingKeys_receiving (by simpa using receives)]
      cases envelope with
      | event event => exact Iff.rfl
      | state source sessionId state =>
          have other := (leaves _ (List.mem_cons_of_mem _
            (List.mem_cons_self ..))).2.2
          have distinct : key ≠ ⟨source, sessionId⟩ := by
            rintro rfl
            exact other rfl
          simp [Conn.delivered, distinct]
  | lagged => cases (leaves _ (List.mem_cons_self ..)).2.1
  | @drained _ _ drain draining =>
      have idle : pendingKeys conn = [] :=
        pendingKeys_receiving (by rw [draining]; rfl)
      rw [idle]
      cases drain with
      | unsubscribe topic =>
          cases (leaves _ (List.mem_cons_of_mem _ (List.mem_cons_self ..))).1
      | subscribe | shutdown => exact Iff.rfl
  | @emitted now asOf frame frames emitting =>
      rw [pendingKeys_emitting emitting, pendingKeys_afterBurst rfl]
      simp only [List.mem_insert_iff, List.mem_cons]
      rw [or_assoc, or_left_comm]
  | filtered | poked => exact Iff.rfl
  | readSnapshot => cases unselected
  | unsent | unemitted | saidClose | ended => exact absurd rfl open_
  | greeted phase | drains _ phase | readClock phase =>
      rw [@pendingKeys_resting conn (by rw [phase]; simp)]
      exact Iff.rfl

/-- The bursts of a stretch over an unchanged database: every session that one
sends is admitted by it.  A session that no live frame shows is held or about to
be sent once a burst has admitted it, as long as no coverage ends. -/
structure Bursting (db : Db) (nowMs : Int) (conn : Conn) (late : List ConnSeen) :
    Prop where
  clocked : ∀ topic states now,
    conn.phase = .readingSnapshot topic states now → now = nowMs
  sound : ∀ burst ∈ burstsWith (pendingKeys conn) late, ∀ key ∈ burst.keys,
    burst.Admits db nowMs key
  once : ∀ key, (∀ here ∈ late, leavesCoverage key here) →
    (HeldOrPending key conn ↔
      ∃ burst ∈ burstsWith (pendingKeys conn) late,
        burst.Admits db nowMs key) ∧
      Trace.Each (SentAtFirst db nowMs key)
        (burstsWith (pendingKeys conn) late)

theorem Bursting.select (bursting : Bursting db nowMs conn late)
    {topic : Topic} {states : List SessionCurrentState}
    (wellFormed : db.WellFormed) (same : view.db = db)
    (reading : conn.phase = .readingSnapshot topic states nowMs) :
    Bursting db nowMs (conn.readSnapshot view topic states nowMs true).1
      (late ++ [.subscribed topic states]) := by
  have idle : pendingKeys conn = [] :=
    pendingKeys_resting (by rw [reading]; simp)
  have chosen : pendingKeys (conn.readSnapshot view topic states nowMs true).1 =
      (snapshotForTopic topic conn.snapshottedKeys nowMs states db).map
        StateFrame.key := by
    rw [← same]
    exact pendingKeys_afterBurst rfl
  have sound := bursting.sound
  have once := bursting.once
  rw [idle] at sound once
  refine ⟨?_, ?_, ?_⟩
  · intro other filter now phase
    simp only [Conn.readSnapshot, Conn.afterBurst] at phase
    split at phase <;> cases phase
  · rw [chosen, burstsWith_subscribed]
    intro burst member key sends
    rcases List.mem_append.mp member with member | member
    · exact sound burst member key sends
    · rw [List.mem_singleton] at member
      subst member
      exact ((mem_burst_keys wellFormed).mp sends).1
  · intro key leaves
    obtain ⟨admitted, sent⟩ := once key fun here member =>
      leaves here (List.mem_append_left _ member)
    have known : key ∈ conn.snapshottedKeys ↔
        ∃ burst ∈ bursts late, burst.Admits db nowMs key := by
      simpa [HeldOrPending, idle, bursts] using admitted
    rw [HeldOrPending, chosen, burstsWith_subscribed]
    constructor
    · rw [mem_burst_keys wellFormed]
      simp only [List.mem_append, List.mem_singleton, or_and_right, exists_or,
        exists_eq_left]
      rw [← known]
      change key ∈ conn.snapshottedKeys ∨ _ ↔ _
      by_cases held : key ∈ conn.snapshottedKeys
      · simp [held]
      · simp [held, Burst.Admits]
    · refine sent.append ?_
      rw [Trace.each_cons]
      refine ⟨?_, Trace.each_nil⟩
      rw [List.append_nil, SentAtFirst, count_burst_keys wellFormed]
      refine if_congr ?_ rfl rfl
      rw [known]
      simp [Burst.Admits, bursts]

theorem Bursting.step (bursting : Bursting db nowMs conn late)
    (wellFormed : db.WellFormed) (same : view.db = db)
    (open_ : next.phase ≠ .closed)
    (answered : ∀ read, label = .readSnapshot read → read = true)
    (clocked : ∀ topic states now,
      next.phase = .readingSnapshot topic states now → now = nowMs)
    (moves : Conn.Moves view conn label next out) :
    Bursting db nowMs next (late ++ out) := by
  by_cases unselected : label.selects = false
  · have kept := @moves_bursts view conn next label late out moves unselected
      open_
    refine ⟨clocked, ?_, ?_⟩
    · rw [kept]
      exact bursting.sound
    · intro key leaves
      rw [kept, moves_heldOrPending moves unselected open_ fun here member =>
        leaves here (List.mem_append_right _ member)]
      exact bursting.once key fun here member =>
        leaves here (List.mem_append_left _ member)
  · cases moves with
    | @readSnapshot topic states now read reading =>
        obtain rfl := answered read rfl
        obtain rfl := bursting.clocked topic states now reading
        exact bursting.select wellFormed same reading
    | ended other | poked other | drains other => exact absurd other unselected
    | greeted | sent | unsent | filtered | lagged | drained | readClock
      | emitted | unemitted | saidClose => exact absurd rfl unselected

end Step

/-! An unchanged database at a fixed instant. -/

def unchanged (db : Db) (nowMs : Nat) (world : World) : WorldLabel → Prop :=
  fun _ => world.store.db = db ∧ world.clock = nowMs

/-- The reads of a subscribe succeed: of the clock, and of the sessions. -/
def readsAnswered : WorldLabel → Bool
  | .conn (.readClock read) | .conn (.readSnapshot read) => read
  | _ => true

def unchangedReads (db : Db) (nowMs : Nat) (world : World) (label : WorldLabel) :
    Prop :=
  unchanged db nowMs world label ∧ readsAnswered label = true

theorem clocked_step {view : View} {conn next : Conn} {label : ConnLabel}
    {out : List ConnSeen} {nowMs : Int}
    (taken : conn.step view label = some (next, out))
    (answered : ∀ read, label = .readClock read → read = true)
    (same : view.clock = nowMs)
    (clocked : ∀ topic states now,
      conn.phase = .readingSnapshot topic states now → now = nowMs) :
    ∀ topic states now,
      next.phase = .readingSnapshot topic states now → now = nowMs := by
  intro topic states now reading
  cases Conn.step_moves taken with
  | @readClock other filter _ read standing =>
      obtain rfl := answered read rfl
      simp only [Conn.step, standing, if_true] at taken
      cases taken
      cases reading
      exact same
  | sent =>
      rw [Conn.delivered_phase] at reading
      exact clocked topic states now reading
  | filtered | poked => exact clocked topic states now reading
  | lagged _ _ _ lives =>
      rcases lives with same | ⟨closed, _⟩
      · exact clocked topic states now (same ▸ reading)
      · cases closed ▸ reading
  | @drained _ _ drain => cases drain <;> cases reading
  | readSnapshot =>
      simp only [Conn.readSnapshot, Conn.afterBurst] at reading
      split at reading <;> cases reading
  | emitted =>
      simp only [Conn.afterBurst] at reading
      split at reading <;> cases reading
  | greeted | ended | drains | unsent | unemitted | saidClose => cases reading

section Run

variable {config : WsConfig} {db : Db} {nowMs : Nat}
variable {world next : World} {label : WorldLabel} {late out : List WorldSeen}

structure BurstingWorld (db : Db) (nowMs : Nat) (world : World)
    (late : List ConnSeen) : Prop where
  connected : world.conn ≠ none
  bursting : ∀ conn, world.conn = some conn → conn.phase ≠ .closed →
    Bursting db nowMs conn late

theorem BurstingWorld.step
    (bursting : BurstingWorld db nowMs world (connSeen late))
    (wellFormed : db.WellFormed) (ok : unchangedReads db nowMs world label)
    (taken : world.step config label = some (next, out)) :
    BurstingWorld db nowMs next (connSeen (late ++ out)) := by
  obtain ⟨⟨sameDb, sameClock⟩, answered⟩ := ok
  rw [connSeen_append]
  have aside : next.conn = world.conn → connSeen out = [] →
      BurstingWorld db nowMs next (connSeen late ++ connSeen out) := by
    intro same silent
    rw [silent, List.append_nil]
    exact ⟨same ▸ bursting.connected, same ▸ bursting.bursting⟩
  cases World.step_moves taken with
  | clock | begin | transact | finish | flagged => exact aside rfl (by simp)
  | upgraded absent => exact absurd absent bursting.connected
  | @conn label conn after seen present moves =>
      rw [connSeen_conn]
      refine ⟨by simp, fun later same open_ => ?_⟩
      cases same
      have running : conn.phase ≠ .closed := fun closed =>
        open_ (moves_closed moves closed).1
      have before := bursting.bursting conn present running
      simp only [World.step, present] at taken
      obtain ⟨⟨other, reported⟩, stepped, result⟩ :=
        Option.map_eq_some_iff.mp taken
      obtain ⟨same, _⟩ := Prod.mk.inj result
      have sameConn : other = after := by
        simpa using congrArg World.conn same
      subst sameConn
      refine before.step wellFormed sameDb open_ ?_ ?_ moves
      · rintro read rfl
        exact answered
      · refine clocked_step stepped ?_ (congrArg Nat.cast sameClock)
          before.clocked
        rintro read rfl
        exact answered

theorem bursting_of_run {start later : World} {conn : Conn}
    (run : (World.machine config).Run (unchangedReads db nowMs) start later late)
    (wellFormed : db.WellFormed) (present : start.conn = some conn)
    (main : conn.phase = .main) (empty : conn.snapshottedKeys = []) :
    BurstingWorld db nowMs later (connSeen late) := by
  refine run.invariant
    (fun world seen => BurstingWorld db nowMs world (connSeen seen)) ?_ ?_
  · have idle : pendingKeys conn = [] :=
      pendingKeys_resting (by rw [main]; simp)
    refine ⟨by simp [present], fun other same _ => ?_⟩
    obtain rfl : conn = other := by simpa [present] using same
    refine ⟨?_, by simp [burstsWith], fun key _ => ⟨?_, Trace.each_nil⟩⟩
    · intro topic states now reading
      rw [main] at reading
      cases reading
    · simp [HeldOrPending, empty, idle, burstsWith]
  · intro middle next seen out label _ before ok taken
    exact before.step wellFormed ok taken

end Run

/-- Subscribes at a fixed instant, on a database that stays as it is, from a
connection without topics on.  A burst sends what it admits; and as long as no
coverage ends, each session that no live frame shows is sent by the first burst
that admits it and by no other. -/
def BurstsOnce (config : WsConfig) (start : World) : Prop :=
  ∀ later late conn,
    (World.machine config).Run (unchangedReads start.store.db start.clock) start
      later late →
    later.conn = some conn → conn.phase ≠ .closed → conn.burst = [] →
    (∀ burst ∈ bursts (connSeen late), ∀ key ∈ burst.keys,
      burst.Admits start.store.db start.clock key) ∧
    ((∀ here ∈ connSeen late, isUnsubscribe here = false) →
      (∀ here ∈ connSeen late, isLag here = false) →
      ∀ key, (∀ here ∈ connSeen late, liveKey? here ≠ some key) →
        SentOnceAtFirst start.store.db start.clock key (connSeen late))

theorem snapshot_coverage {config : WsConfig} {db : Db}
    {hub : List BroadcastEnvelope} {clock : Nat} {final : World}
    {seen : List WorldSeen} {conn : Conn}
    (run : (World.machine config).Run (fun _ _ => True)
      (World.initial db hub clock) final seen)
    (wellFormed : db.WellFormed) (present : final.conn = some conn) :
    SnapshotCoverage conn (connSeen seen) ∧
      (conn.phase = .main → active (connSeen seen) = [] →
        BurstsOnce config final) := by
  have coverage := (covers_of_run wellFormed run).snapshotCoverage present
  refine ⟨coverage, fun main inactive => ?_⟩
  intro later late after stretch there open_ finished
  have empty : conn.snapshottedKeys = [] := by
    refine List.eq_nil_iff_forall_not_mem.mpr fun key member => ?_
    have covers := coverage.covered key member
    rw [ActiveCovers, inactive] at covers
    cases covers
  have stored : final.store.db.WellFormed :=
    (World.ledger run wellFormed rfl).chained.wellFormed wellFormed
  have bursting := (bursting_of_run stretch stored present main empty).bursting
    after there open_
  have sound := bursting.sound
  have once := bursting.once
  rw [pendingKeys, finished] at sound once
  refine ⟨sound, fun kept lossless key unshown => ?_⟩
  exact (once key fun here member =>
    ⟨kept here member, lossless here member, unshown here member⟩).2

instance (db : Db) (nowMs : Nat) (world : World) (label : WorldLabel) :
    Decidable (unchanged db nowMs world label) :=
  inferInstanceAs (Decidable (_ ∧ _))

instance (db : Db) (nowMs : Nat) (world : World) (label : WorldLabel) :
    Decidable (unchangedReads db nowMs world label) :=
  inferInstanceAs (Decidable (_ ∧ _))

/-- A subscribe up to its SELECT, after as many receives as its drain takes. -/
def subscribing (topic : String) (states : List String) (receives : Nat)
    (read : Bool) : List WorldLabel :=
  .conn (.inbound (.text (some (.subscribe topic states)))) ::
    List.replicate receives (.conn (.receive 0 true)) ++
    [.conn (.readClock true), .conn (.readSnapshot read)]

def greeting : List WorldLabel :=
  [.computeHello true, .upgrade, .conn (.greet true)]

/-- Three sessions, the second of them ended, and a connection without topics. -/
def threeSessions : List WorldLabel :=
  .clock 1000 ::
    writing .ingest (System.bareHook "a" .userPromptSubmit none) ++
    writing .ingest (System.bareHook "b" .sessionEnded none) ++
    writing .ingest (System.bareHook "c" .stop none) ++ greeting

def threeSubscribes : List WorldLabel :=
  subscribing "state.session.*" ["ended"] 1 true ++ [.conn (.emit true)] ++
    subscribing "state.session.a" [] 1 true ++ [.conn (.emit true)] ++
    subscribing "state.session.*" [] 1 true ++ [.conn (.emit true)]

def shownThrice (start : World × List WorldSeen) : Bool :=
  decide (∃ conn ∈ start.1.conn,
      conn.phase = .main ∧ active (connSeen start.2) = []) &&
    decide ((World.machine roomyConfig).execMeets
      (unchangedReads start.1.store.db start.1.clock) start.1
      threeSubscribes) &&
    ((World.machine roomyConfig).exec start.1 threeSubscribes).any
      fun (later, late) =>
        decide (∃ conn ∈ later.conn, conn.phase ≠ .closed ∧
          conn.burst = [] ∧ conn.snapshottedKeys.length = 3) &&
        decide (∀ here ∈ connSeen late, isUnsubscribe here = false ∧
          isLag here = false ∧ liveKey? here ≠ some ⟨"claude", "a"⟩) &&
        decide (bursts (connSeen late) =
          [⟨.stateAll, [.ended], [⟨"claude", "b"⟩]⟩,
            ⟨.stateSession "a", [], [⟨"claude", "a"⟩]⟩,
            ⟨.stateAll, [], [⟨"claude", "c"⟩]⟩])

theorem snapshot_coverage_threeSubscribes :
    ∃ (start later : World) (late : List WorldSeen) (conn : Conn)
      (seen : List ConnSeen),
      bursts (connSeen late) =
        [⟨.stateAll, [.ended], [⟨"claude", "b"⟩]⟩,
          ⟨.stateSession "a", [], [⟨"claude", "a"⟩]⟩,
          ⟨.stateAll, [], [⟨"claude", "c"⟩]⟩] ∧
      later.conn = some conn ∧ conn.snapshottedKeys.length = 3 ∧
      SnapshotCoverage conn seen ∧
      SentOnceAtFirst start.store.db start.clock ⟨"claude", "a"⟩
        (connSeen late) := by
  obtain ⟨start, seen, run, checked⟩ := Machine.exec_check
    (Machine.execMeets_true (World.machine roomyConfig)
      (World.initial Db.empty [] 0) threeSessions) shownThrice (by decide)
  simp only [shownThrice, Bool.and_eq_true, decide_eq_true_eq] at checked
  obtain ⟨⟨⟨fresh, present, main, inactive⟩, meets⟩, passes⟩ := checked
  obtain ⟨later, late, stretch, checked⟩ := Machine.exec_check meets _ passes
  simp only [Bool.and_eq_true, decide_eq_true_eq] at checked
  obtain ⟨⟨⟨conn, there, open_, finished, three⟩, leaves⟩, shape⟩ := checked
  have whole := run.trans (stretch.mono fun _ _ _ => trivial)
  refine ⟨start, later, late, conn, _, shape, there, three,
    (snapshot_coverage whole Db.wellFormed_empty there).1, ?_⟩
  exact ((snapshot_coverage run Db.wellFormed_empty present).2 main inactive
    later late conn stretch there open_ finished).2
    (fun here member => (leaves here member).1)
    (fun here member => (leaves here member).2.1) _
    fun here member => (leaves here member).2.2

/-! What an unchanged database leaves open: the frame of an earlier write, the
loss of one, and a read that fails. -/

inductive Disturbance where
  | lateFrame
  | lag
  | failedRead
  deriving DecidableEq

/-- Nothing but the one disturbance, and yet a session is not sent once, by the
first burst that admits it. -/
def Departs (cause : Disturbance) : Prop :=
  ∃ (config : WsConfig) (start later : World) (seen late : List WorldSeen)
    (key : SessionKey),
    (World.machine config).Run (fun _ _ => True) (World.initial Db.empty [] 0)
      start seen ∧
    (∃ conn ∈ start.conn, conn.phase = .main ∧ active (connSeen seen) = []) ∧
    (World.machine config).Run
      (fun world label => unchanged start.store.db start.clock world label ∧
        (cause ≠ .failedRead → readsAnswered label = true)) start later late ∧
    (∃ conn ∈ later.conn, conn.phase ≠ .closed ∧ conn.burst = []) ∧
    (∀ here ∈ connSeen late, isUnsubscribe here = false) ∧
    (cause ≠ .lag → ∀ here ∈ connSeen late, isLag here = false) ∧
    (cause ≠ .lateFrame → ∀ here ∈ connSeen late, liveKey? here ≠ some key) ∧
    ¬ SentOnceAtFirst start.store.db start.clock key (connSeen late)

def beforeDisturbance : Disturbance → List WorldLabel
  | .lateFrame =>
      .clock 1000 :: greeting ++
        [.begin .ingest (.event (System.bareHook "a" .userPromptSubmit none)
          none), .transact FaultPlan.none]
  | .lag =>
      .clock 1000 ::
        writing .ingest (System.bareHook "a" .userPromptSubmit none) ++
        greeting ++
        [.begin .ingest (.event (System.bareHook "b" .userPromptSubmit none)
          none), .transact FaultPlan.none]
  | .failedRead =>
      .clock 1000 ::
        writing .ingest (System.bareHook "a" .userPromptSubmit none) ++ greeting

def disturbed : Disturbance → List WorldLabel
  | .lateFrame =>
      subscribing "state.session.*" ["ended"] 1 true ++ .finish ::
        subscribing "state.session.a" [] 3 true
  | .lag =>
      subscribing "state.session.*" [] 1 true ++
        [.conn (.emit true), .conn (.emit true), .finish] ++
        subscribing "state.session.a" [] 3 true ++ [.conn (.emit true)]
  | .failedRead =>
      subscribing "state.session.*" [] 1 false ++
        subscribing "state.session.*" [] 1 true ++ [.conn (.emit true)]

def narrowConfig : WsConfig :=
  { roomyConfig with capacity := 1 }

def disturbedConfig : Disturbance → WsConfig
  | .lag => narrowConfig
  | .lateFrame | .failedRead => roomyConfig

/-- What a run of `disturbed` shows of a session, after `beforeDisturbance`. -/
def departure (cause : Disturbance) (key : SessionKey)
    (start : World × List WorldSeen) : Bool :=
  decide (∃ conn ∈ start.1.conn,
      conn.phase = .main ∧ active (connSeen start.2) = []) &&
    decide ((World.machine (disturbedConfig cause)).execMeets
      (fun world label =>
        unchanged start.1.store.db start.1.clock world label ∧
          (cause ≠ .failedRead → readsAnswered label = true))
      start.1 (disturbed cause)) &&
    ((World.machine (disturbedConfig cause)).exec start.1
      (disturbed cause)).any fun (later, late) =>
        decide (∃ conn ∈ later.conn, conn.phase ≠ .closed ∧ conn.burst = []) &&
        decide (∀ here ∈ connSeen late, isUnsubscribe here = false) &&
        decide (cause ≠ .lag → ∀ here ∈ connSeen late, isLag here = false) &&
        decide (cause ≠ .lateFrame →
          ∀ here ∈ connSeen late, liveKey? here ≠ some key) &&
        decide (¬ SentOnceAtFirst start.1.store.db start.1.clock key
          (connSeen late))

theorem departs_of_exec {cause : Disturbance} {key : SessionKey}
    (passes : ((World.machine (disturbedConfig cause)).exec
      (World.initial Db.empty [] 0) (beforeDisturbance cause)).any
        (departure cause key) = true) : Departs cause := by
  obtain ⟨start, seen, run, checked⟩ := Machine.exec_check
    (Machine.execMeets_true _ _ _) _ passes
  simp only [departure, Bool.and_eq_true, decide_eq_true_eq] at checked
  obtain ⟨⟨fresh, meets⟩, passes⟩ := checked
  obtain ⟨later, late, stretch, checked⟩ := Machine.exec_check meets _ passes
  simp only [Bool.and_eq_true, decide_eq_true_eq] at checked
  obtain ⟨⟨⟨⟨finished, kept⟩, lossless⟩, unshown⟩, departs⟩ := checked
  exact ⟨disturbedConfig cause, start, later, seen, late, key, run, fresh,
    stretch, finished, kept, lossless, unshown, departs⟩

/-- A frame that an earlier write publishes late counts as coverage, a lag ends
it, and a failed read shows nothing: either way the first burst that admits a
session is not the one, or not the only one, that sends it. -/
theorem bursts_depart_from_first :
    Departs .lateFrame ∧ Departs .lag ∧ Departs .failedRead :=
  ⟨@departs_of_exec .lateFrame ⟨"claude", "a"⟩ (by decide),
    @departs_of_exec .lag ⟨"claude", "a"⟩ (by decide),
    @departs_of_exec .failedRead ⟨"claude", "a"⟩ (by decide)⟩

end Bowerbird.Daemon
