import Bowerbird.Daemon.Delivery
import Bowerbird.Daemon.StateStream

namespace Bowerbird.Daemon

open Protocol Foundation Projection Api

/-! The dates of the state frames of one session.  Along its stream they ascend,
except where a snapshot overtakes states that still wait in the channel. -/

/-- A state envelope that the SELECT about to run will show a later state than. -/
def Overtaken (db : Db) (conn : Conn) (topic : Topic)
    (states : List SessionCurrentState) (nowMs : Int)
    (envelope : BroadcastEnvelope) : Prop :=
  ∃ waiting ∈ envelope.state?, ∃ state ∈ db.stored waiting.1,
    Shows topic conn.snapshottedKeys nowMs states db waiting.1 state ∧
      waiting.2.lastEventAtMs < state.lastEventAtMs

def BacklogCurrent (world : World) : Prop :=
  match world.conn with
  | none => True
  | some conn =>
      match conn.phase with
      | .readingSnapshot topic states nowMs =>
          ∀ envelope ∈ world.store.hub.drop conn.next,
            ¬ Overtaken world.store.db conn topic states nowMs envelope
      | _ => True

/-- The clock does not go back, and no SELECT overtakes an unread state. -/
def keepsDates (world : World) (label : WorldLabel) : Prop :=
  world.clockForward label ∧
    match label with
    | .conn (.readSnapshot true) => BacklogCurrent world
    | _ => True

instance (db : Db) (conn : Conn) (topic : Topic)
    (states : List SessionCurrentState) (nowMs : Int)
    (envelope : BroadcastEnvelope) :
    Decidable (Overtaken db conn topic states nowMs envelope) := by
  unfold Overtaken
  infer_instance

instance (world : World) : Decidable (BacklogCurrent world) := by
  unfold BacklogCurrent
  split
  · infer_instance
  · split <;> infer_instance

instance (world : World) (label : WorldLabel) :
    Decidable (keepsDates world label) := by
  unfold keepsDates
  split <;> infer_instance

/-- No frame is older than one before it. -/
def InDateOrder (frames : List (SessionState × Origin)) : Prop :=
  frames.Pairwise fun first second =>
    first.1.lastEventAtMs ≤ second.1.lastEventAtMs

instance (frames : List (SessionState × Origin)) :
    Decidable (InDateOrder frames) :=
  inferInstanceAs (Decidable (List.Pairwise _ _))

/-- The reading that dates whatever is committed next, or a later one. -/
def horizon (store : Store WriterTask) (clock : Nat) : Int :=
  match store.inFlight with
  | none => clock
  | some flight => if flight.result = none then flight.nowMs else clock

section Horizon

variable {store : Store WriterTask} {clock : Nat} {flight : InFlight WriterTask}

theorem horizon_free (free : store.inFlight = none) :
    horizon store clock = clock := by
  rw [horizon, free]

theorem horizon_unsettled (busy : store.inFlight = some flight)
    (unsettled : flight.result = none) : horizon store clock = flight.nowMs := by
  rw [horizon, busy]
  exact if_pos unsettled

theorem horizon_settled {result : Except SqlError Outcome}
    (busy : store.inFlight = some flight)
    (settled : flight.result = some result) : horizon store clock = clock := by
  rw [horizon, busy]
  exact if_neg (by rw [settled]; exact Option.some_ne_none _)

theorem horizon_forward {ms : Nat} (forward : clock ≤ ms)
    (within : horizon store clock ≤ clock) :
    horizon store clock ≤ horizon store ms ∧ horizon store ms ≤ ms := by
  have later : (clock : Int) ≤ ms := by exact_mod_cast forward
  cases busy : store.inFlight with
  | none =>
      rw [horizon_free busy, horizon_free busy]
      exact ⟨later, le_refl _⟩
  | some flight =>
      cases settled : flight.result with
      | none =>
          rw [horizon_unsettled busy settled] at within ⊢
          rw [horizon_unsettled busy settled]
          exact ⟨le_refl _, le_trans within later⟩
      | some result =>
          rw [horizon_settled busy settled, horizon_settled busy settled]
          exact ⟨later, le_refl _⟩

end Horizon

def timeline (key : SessionKey) (world : World) (seen : List ConnSeen) :
    List Int :=
  ((shown key world.conn seen).map Prod.fst ++
    pending key world.conn world.store).map (·.lastEventAtMs)

/-- The date of the session's row; without one, anything up to the horizon. -/
def limit (key : SessionKey) (world : World) : Int :=
  match world.store.db.stored key with
  | some state => state.lastEventAtMs
  | none => horizon world.store world.clock

structure Dated (world : World) (seen : List ConnSeen) : Prop where
  horizon : horizon world.store world.clock ≤ world.clock
  rows : ∀ key state, world.store.db.stored key = some state →
    state.lastEventAtMs ≤ Daemon.horizon world.store world.clock
  sorted : ∀ key, (timeline key world seen).Pairwise (· ≤ ·)
  bounded : ∀ key, ∀ time ∈ timeline key world seen, time ≤ limit key world

section Step

variable {config : WsConfig} {world next : World} {seen out : List ConnSeen}

/-- A step that commits nothing and shows nothing out of turn. -/
theorem Dated.sublist (dated : Dated world seen)
    (db : next.store.db = world.store.db)
    (later : Daemon.horizon world.store world.clock ≤
      Daemon.horizon next.store next.clock)
    (within : Daemon.horizon next.store next.clock ≤ next.clock)
    (fewer : ∀ key, (timeline key next (seen ++ out)).Sublist
      (timeline key world seen)) : Dated next (seen ++ out) where
  horizon := within
  rows := by
    intro key state stored
    rw [db] at stored
    exact le_trans (dated.rows key state stored) later
  sorted := fun key => (dated.sorted key).sublist (fewer key)
  bounded := by
    intro key time member
    refine le_trans (dated.bounded key time ((fewer key).subset member)) ?_
    rw [limit, limit, db]
    split
    · exact le_refl _
    · exact later

/-- The row that a commit leaves is dated by the reading of its write, or is as
old as the row before. -/
theorem stored_dated {request : WriteRequest} {nowMs : Int} {db after : Db}
    {result : Except SqlError Outcome} {state : SessionState}
    (outcome : request.outcome nowMs db = (result, some after))
    (stored : after.stored (request.columns nowMs).key = some state) :
    state.lastEventAtMs = nowMs ∨
      ∃ before, db.stored (request.columns nowMs).key = some before ∧
        state.lastEventAtMs = before.lastEventAtMs := by
  have appends : request.Appends nowMs db after :=
    WriteRequest.outcome_appends (by rw [outcome])
  rw [appends.stored_self] at stored
  cases request with
  | event envelope precondition =>
      cases stored
      exact transition_lastEventAtMs _ _ _ _ _ _
  | recordingStarted => cases stored
  | recordingEnded recordingSessionId => cases stored

theorem limit_le_horizon (dated : Dated world seen) (key : SessionKey) :
    limit key world ≤ Daemon.horizon world.store world.clock := by
  rw [limit]
  split
  · rename_i state stored
    exact dated.rows key state stored
  · exact le_refl _

section Commit

variable {flight : InFlight WriterTask} {result : Except SqlError Outcome}

/-- The own row moves to a date between the old limit and the reading. -/
theorem Dated.forward (dated : Dated world seen)
    (commits : Commits world.store next.store flight result)
    {state : SessionState} (stored : next.store.db.stored
      (flight.request.columns flight.nowMs).key = some state) :
    limit (flight.request.columns flight.nowMs).key world ≤
        state.lastEventAtMs ∧ state.lastEventAtMs ≤ flight.nowMs := by
  have old := limit_le_horizon dated (flight.request.columns flight.nowMs).key
  rw [horizon_unsettled commits.busy commits.unsettled] at old
  rcases stored_dated commits.outcome stored with same | ⟨before, present, same⟩
  · rw [same]
    exact ⟨old, le_refl _⟩
  · have own : limit (flight.request.columns flight.nowMs).key world =
        state.lastEventAtMs := by
      rw [limit, present]
      exact same.symm
    exact ⟨le_of_eq own, own ▸ old⟩

theorem Dated.raised (dated : Dated world seen)
    (commits : Commits world.store next.store flight result)
    (clock : next.clock = world.clock) (key : SessionKey) :
    limit key world ≤ limit key next := by
  have appends : flight.request.Appends flight.nowMs world.store.db
      next.store.db := WriteRequest.outcome_appends (by rw [commits.outcome])
  have bound := limit_le_horizon dated key
  have late := le_trans bound dated.horizon
  rw [← clock, ← horizon_settled commits.settled rfl] at late
  by_cases same : (flight.request.columns flight.nowMs).key = key
  · subst same
    cases stored : next.store.db.stored
      (flight.request.columns flight.nowMs).key with
    | some state =>
        have forward := (dated.forward commits stored).1
        simpa [limit, stored] using forward
    | none => simpa [limit, stored] using late
  · have stays := appends.stored_ne same
    cases stored : world.store.db.stored key with
    | some state => simp [limit, stays, stored]
    | none => simpa [limit, stays, stored] using late

theorem Dated.commit (dated : Dated world seen)
    (commits : Commits world.store next.store flight result)
    (clock : next.clock = world.clock) (conn : next.conn = world.conn) :
    Dated next seen := by
  have appends : flight.request.Appends flight.nowMs world.store.db
      next.store.db := WriteRequest.outcome_appends (by rw [commits.outcome])
  have now : Daemon.horizon world.store world.clock = flight.nowMs :=
    horizon_unsettled commits.busy commits.unsettled
  have later : Daemon.horizon next.store next.clock = next.clock :=
    horizon_settled commits.settled rfl
  have clocked : flight.nowMs ≤ Daemon.horizon next.store next.clock := by
    rw [later, clock, ← now]
    exact dated.horizon
  have grows : ∀ key, timeline key next seen = timeline key world seen ++
      ((announcements flight.request flight.nowMs result).filterMap
        (stateArriving key)).map (·.lastEventAtMs) := by
    intro key
    simp [timeline, pending, conn, commits.transit]
  exact {
    horizon := le_of_eq later
    rows := by
      intro key state stored
      refine le_trans ?_ clocked
      by_cases same : (flight.request.columns flight.nowMs).key = key
      · subst same
        exact (dated.forward commits stored).2
      · rw [← now]
        exact dated.rows key state (appends.stored_ne same ▸ stored)
    sorted := by
      intro key
      rw [grows]
      rcases announced_stored key commits.outcome with
        silent | ⟨state, rfl, stored, announced⟩
      · rw [silent]
        simpa using dated.sorted key
      · rw [announced, List.pairwise_append]
        refine ⟨dated.sorted _, by simp, fun time member other last => ?_⟩
        rw [List.map_singleton, List.mem_singleton] at last
        subst last
        exact le_trans (dated.bounded _ time member)
          (dated.forward commits stored).1
    bounded := by
      intro key time member
      rw [grows, List.mem_append] at member
      rcases member with member | member
      · exact le_trans (dated.bounded key time member)
          (dated.raised commits clock key)
      · rcases announced_stored key commits.outcome with
          silent | ⟨state, rfl, stored, announced⟩
        · rw [silent] at member
          cases member
        · rw [announced, List.map_singleton, List.mem_singleton] at member
          subst member
          simp [limit, stored] }

end Commit

/-! The steps of the connection. -/

theorem timeline_conn {conn : Conn} (key : SessionKey) (config : WsConfig)
    (present : world.conn = some conn) :
    timeline key world seen =
      ((seen.filterMap (stateShown key)).map Prod.fst ++
        (held key (world.view config) conn ++
          world.store.owed.filterMap (stateArriving key))).map
        (·.lastEventAtMs) := by
  simp [timeline, shown, pending, transit, held, present, World.view]

variable {conn after : Conn} {moved : List ConnSeen}

theorem Dated.receive {label : ConnLabel} (dated : Dated world seen)
    (present : world.conn = some conn)
    (moves : Conn.Moves (world.view config) conn label after moved)
    (quiet : label.selects = false) :
    Dated { world with conn := some after } (seen ++ moved) := by
  refine dated.sublist rfl (le_refl _) dated.horizon fun key => ?_
  rw [timeline_conn key config present, timeline_conn key config rfl]
  refine List.Sublist.map _ ?_
  rw [List.filterMap_append, List.map_append, List.append_assoc]
  refine List.Sublist.append_left ?_ _
  rw [← List.append_assoc]
  exact (moves_held moves quiet).append_right _

/-- A block at one level fits between what is below it and what is above. -/
theorem pairwise_insert {before middle after : List Int} {top : Int}
    (sorted : (before ++ after).Pairwise (· ≤ ·))
    (below : ∀ time ∈ before, time ≤ top) (level : ∀ time ∈ middle, time = top)
    (above : ∀ time ∈ middle, ∀ later ∈ after, time ≤ later) :
    (before ++ (middle ++ after)).Pairwise (· ≤ ·) := by
  rw [List.pairwise_append] at sorted
  rw [List.pairwise_append, List.pairwise_append]
  refine ⟨sorted.1, ⟨?_, sorted.2.1, above⟩, ?_⟩
  · refine List.pairwise_of_forall_mem_list fun first inside second also => ?_
    rw [level first inside, level second also]
  · intro time member later inside
    rcases List.mem_append.mp inside with middle | after
    · rw [level later middle]
      exact below time member
    · exact sorted.2.2 time member later after

section Snapshot

variable {topic : Topic} {states : List SessionCurrentState} {nowMs : Int}
variable {read : Bool}

variable (seen) in
theorem timeline_selected (key : SessionKey) (config : WsConfig)
    (present : world.conn = some conn)
    (after_ : next.conn = some
      (conn.readSnapshot (world.view config) topic states nowMs read).1)
    (store : next.store = world.store) :
    timeline key next (seen ++
        (conn.readSnapshot (world.view config) topic states nowMs read).2) =
      ((seen.filterMap (stateShown key)).map Prod.fst ++
        ((selected world conn topic states nowMs read).filterMap (ofFrame key) ++
          pending key world.conn world.store)).map (·.lastEventAtMs) := by
  rw [timeline_conn key config after_, held, burstShown_afterBurst rfl, store]
  congr 1
  simp [pending, transit, present, World.view, Conn.readSnapshot, selected,
    stateShown, Function.comp_def, store]

theorem Dated.readSnapshot (dated : Dated world seen)
    (holding : world.store.Holding) (wellFormed : world.store.db.WellFormed)
    (present : world.conn = some conn)
    (reading : conn.phase = .readingSnapshot topic states nowMs)
    (current : read = true → BacklogCurrent world)
    (after_ : next.conn = some
      (conn.readSnapshot (world.view config) topic states nowMs read).1)
    (store : next.store = world.store) (clock : next.clock = world.clock) :
    Dated next (seen ++
      (conn.readSnapshot (world.view config) topic states nowMs read).2) := by
  have old : ∀ key, timeline key world seen =
      ((seen.filterMap (stateShown key)).map Prod.fst).map (·.lastEventAtMs) ++
        (pending key world.conn world.store).map (·.lastEventAtMs) := by
    intro key
    have idle : burstShown key conn = [] := by
      refine burstShown_eq_nil fun _ _ _ emitting => ?_
      rw [reading] at emitting
      cases emitting
    simp [timeline, shown, present, idle]
  have split : ∀ key, _ := fun key => timeline_selected seen key config
    present after_ store
  simp only [List.map_append] at split
  have level : ∀ key, ∀ time ∈ ((selected world conn topic states nowMs
      read).filterMap (ofFrame key)).map (·.lastEventAtMs),
      time = limit key world := by
    intro key time member
    obtain ⟨state, inside, rfl⟩ := List.mem_map.mp member
    obtain ⟨_, stored, shows, rfl⟩ := selected_shows wellFormed inside
    rw [limit, shows.stored]
  have above : ∀ key, ∀ time ∈ ((selected world conn topic states nowMs
      read).filterMap (ofFrame key)).map (·.lastEventAtMs),
      ∀ later ∈ (pending key world.conn world.store).map (·.lastEventAtMs),
        time ≤ later := by
    intro key time member later waiting
    obtain ⟨state, inside, rfl⟩ := List.mem_map.mp member
    obtain ⟨reads, stored, shows, rfl⟩ := selected_shows wellFormed inside
    obtain ⟨other, arriving, rfl⟩ := List.mem_map.mp waiting
    rw [pending, transit, present, List.filterMap_append, List.mem_append]
      at arriving
    rcases arriving with unread | owed
    · have safe := current reads
      simp only [BacklogCurrent, present, reading] at safe
      obtain ⟨envelope, inside, own⟩ := List.mem_filterMap.mp unread
      have shape := stateArriving_eq_some own
      subst shape
      have upToDate := safe _ inside
      by_contra older
      exact upToDate ⟨(key, other), rfl, stored, shows.stored, shows,
        not_le.mp older⟩
    · have own := owed_stored holding owed
      rw [shows.stored, Option.some.injEq] at own
      rw [own]
  have same : ∀ key, limit key next = limit key world := by
    intro key
    rw [limit, limit, store, clock]
  exact {
    horizon := by
      rw [store, clock]
      exact dated.horizon
    rows := by
      rw [store, clock]
      exact dated.rows
    sorted := by
      intro key
      rw [split]
      refine pairwise_insert (old key ▸ dated.sorted key) ?_ (level key)
        (above key)
      intro time member
      refine dated.bounded key time ?_
      rw [old]
      exact List.mem_append_left _ member
    bounded := by
      intro key time member
      rw [split, List.mem_append, List.mem_append] at member
      rw [same]
      rcases member with before | burst | waiting
      · refine dated.bounded key time ?_
        rw [old]
        exact List.mem_append_left _ before
      · exact le_of_eq (level key time burst)
      · refine dated.bounded key time ?_
        rw [old]
        exact List.mem_append_right _ waiting }

end Snapshot

theorem Dated.step {label : WorldLabel} {out : List WorldSeen}
    {trace : List WorldSeen} (dated : Dated world (connSeen trace))
    (connected : Connected world trace) (holding : world.store.Holding)
    (wellFormed : world.store.db.WellFormed) (ok : keepsDates world label)
    (moves : World.Moves config world label next out) :
    Dated next (connSeen (trace ++ out)) := by
  have nothing : ∀ stored : List (StoreSeen WriterTask),
      connSeen (trace ++ stored.map .store) = connSeen trace := by
    simp
  -- everything but a commit and a SELECT leaves the rows alone
  have still : next.store.db = world.store.db →
      Daemon.horizon world.store world.clock ≤
        Daemon.horizon next.store next.clock →
      Daemon.horizon next.store next.clock ≤ next.clock →
      connSeen out = [] →
      (∀ key, (timeline key next (connSeen trace)).Sublist
        (timeline key world (connSeen trace))) →
      Dated next (connSeen (trace ++ out)) := by
    intro db later within silent fewer
    rw [connSeen_append, silent]
    refine dated.sublist db later within fun key => ?_
    rw [List.append_nil]
    exact fewer key
  cases moves with
  | clock ms =>
      obtain ⟨later, within⟩ := horizon_forward ok.1 dated.horizon
      exact still rfl later within rfl fun _ => List.Sublist.refl _
  | @begin owner request store stored _ _ taken =>
      obtain ⟨free, _, _, rfl⟩ := Store.begin_cases taken
      have now : Daemon.horizon world.store world.clock = world.clock :=
        horizon_free free
      refine still rfl (le_of_eq now) (le_refl _) (by simp) fun key => ?_
      rw [timeline, timeline, pending, pending, transit_begin taken]
  | @transact faults store stored taken =>
      obtain ⟨flight, result, commits | aborts⟩ := transact_settles taken
      · rw [nothing]
        exact dated.commit commits rfl rfl
      · have now : Daemon.horizon store world.clock = world.clock :=
          horizon_settled aborts.settled rfl
        refine still aborts.db (le_of_le_of_eq dated.horizon now.symm)
          (le_of_eq now) (by simp) fun key => ?_
        rw [timeline, timeline, pending, pending, aborts.transit]
  | @finish store stored taken =>
      have within : ∀ conn, world.conn = some conn →
          conn.next ≤ world.store.hub.length := by
        intro conn present
        unfold Connected at connected
        rw [present] at connected
        exact connected.within
      have fewer := (transit_finish within taken).1
      obtain ⟨flight, result, busy, settled, _, rfl⟩ := Store.finish_cases taken
      refine still rfl ?_ (le_refl _) (by simp) fun key => ?_
      · exact le_of_eq (horizon_settled busy settled)
      · exact List.Sublist.map _
          (List.Sublist.append_left (fewer.filterMap _) _)
  | flagged =>
      exact still rfl (le_refl _) dated.horizon rfl
        fun _ => List.Sublist.refl _
  | upgraded absent =>
      have first : connSeen (trace ++ [.conn .upgraded]) =
          connSeen trace ++ [.upgraded] := by
        rw [connSeen_append]
        rfl
      rw [first]
      refine dated.sublist rfl (le_refl _) dated.horizon fun key => ?_
      simp [timeline, shown, pending, transit, absent, Conn.upgraded,
        stateShown, burstShown]
  | @conn label conn after moved present moves =>
      rw [connSeen_append, connSeen_conn]
      by_cases quiet : label.selects = false
      · exact dated.receive present moves quiet
      · cases moves with
        | readSnapshot reading =>
            refine dated.readSnapshot holding wellFormed present reading ?_ rfl
              rfl rfl
            intro reads
            subst reads
            exact ok.2
        | ended other | poked other | drains other => exact absurd other quiet
        | greeted | sent | unsent | filtered | lagged | drained | readClock
          | emitted | unemitted | saidClose => exact absurd rfl quiet

end Step

theorem dated_of_run {config : WsConfig} {db : Db}
    {hub : List BroadcastEnvelope} {clock : Nat} {final : World}
    {seen : List WorldSeen}
    (run : (World.machine config).Run keepsDates (World.initial db hub clock)
      final seen)
    (wellFormed : db.WellFormed)
    (past : ∀ key state, db.stored key = some state →
      state.lastEventAtMs ≤ clock) :
    Dated final (connSeen seen) := by
  refine run.invariant (fun world seen => Dated world (connSeen seen)) ?_ ?_
  · exact {
      horizon := le_refl _
      rows := past
      sorted := fun key => List.Pairwise.nil
      bounded := by
        intro key time member
        cases member }
  · intro middle next seen out label before dated ok taken
    have ledger := World.ledger before wellFormed rfl
    exact dated.step (connected_of_run before) ledger.holding
      (ledger.chained.wellFormed wellFormed) ok (World.step_moves taken)

/-- Whatever the interleaving, as long as no SELECT overtakes an unread state. -/
theorem frames_keep_dates {config : WsConfig} {db : Db}
    {hub : List BroadcastEnvelope} {clock : Nat} {final : World}
    {seen : List WorldSeen}
    (run : (World.machine config).Run keepsDates (World.initial db hub clock)
      final seen)
    (wellFormed : db.WellFormed)
    (past : ∀ key state, db.stored key = some state →
      state.lastEventAtMs ≤ clock)
    (key : SessionKey) :
    InDateOrder ((connSeen seen).filterMap (stateShown key)) := by
  have sorted := (dated_of_run run wellFormed past).sorted key
  rw [timeline, List.map_append, List.pairwise_append] at sorted
  have own := sorted.1
  rw [shown, List.map_append, List.map_append, List.pairwise_append] at own
  rw [List.map_map] at own
  exact List.pairwise_map.mp own.1

def roomyConfig : WsConfig :=
  { capacity := 16, coalesceWindow := 10, daemonVersion := "1",
    startedAtMs := 0 }

/-- Two writes of a session: the second one before the SELECT of a subscribe, the
first one before or after the drain that precedes it. -/
def writesAroundDrain (drainFirst : Bool) : List WorldLabel :=
  let early := .clock 1000 ::
    writing .ingest (System.bareHook "a" .userPromptSubmit none)
  let drain := [.conn (.receive 0 true), .conn (.readClock true)]
  [.computeHello true, .upgrade, .conn (.greet true),
    .conn (.inbound (.text (some (.subscribe "state.session.*" []))))] ++
    (if drainFirst then drain ++ early ++
      .clock 2000 :: writing .ingest (System.bareHook "a" .stop none)
    else early ++ [.conn (.receive 0 true), .conn (.receive 0 true)] ++ drain) ++
    [.conn (.readSnapshot true), .conn (.emit true)] ++
    (if drainFirst then [.conn (.receive 0 true), .conn (.receive 0 true)]
    else [])

/-- A state published between the drain and the SELECT is shown after the later
one of the snapshot. -/
theorem live_frame_older_than_snapshot :
    ∃ (final : World) (seen : List WorldSeen),
      (World.machine roomyConfig).Run World.clockForward
        (World.initial Db.empty [] 0) final seen ∧
      ¬ InDateOrder
        ((connSeen seen).filterMap (stateShown ⟨"claude", "a"⟩)) := by
  have meets : (World.machine roomyConfig).execMeets World.clockForward
      (World.initial Db.empty [] 0) (writesAroundDrain true) := by
    decide
  have ⟨final, seen, run, checked⟩ := Machine.exec_check meets
    (fun result : World × List WorldSeen =>
      decide (¬ InDateOrder ((connSeen result.2).filterMap
        (stateShown ⟨"claude", "a"⟩))))
    (by decide)
  exact ⟨final, seen, run, of_decide_eq_true checked⟩

theorem frames_keep_dates_snapshot :
    ∃ seen : List WorldSeen,
      ((connSeen seen).filterMap (stateShown ⟨"claude", "a"⟩)).length = 1 ∧
      InDateOrder ((connSeen seen).filterMap (stateShown ⟨"claude", "a"⟩)) := by
  have meets : (World.machine roomyConfig).execMeets keepsDates
      (World.initial Db.empty [] 0) (writesAroundDrain false) := by
    decide
  have ⟨final, seen, run, checked⟩ := Machine.exec_check meets
    (fun result : World × List WorldSeen =>
      decide (((connSeen result.2).filterMap
        (stateShown ⟨"claude", "a"⟩)).length = 1))
    (by decide)
  refine ⟨seen, of_decide_eq_true checked,
    frames_keep_dates run Db.wellFormed_empty ?_ _⟩
  intro key state stored
  cases stored

end Bowerbird.Daemon
