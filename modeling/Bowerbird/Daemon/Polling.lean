import Bowerbird.Api.Rest
import Bowerbird.Daemon.Delivery

namespace Bowerbird.Daemon

open Protocol Foundation Projection Api

/-! A client that asks again and again for what has changed since its last poll,
with the largest `updated_at` that it has seen. -/

structure Poller where
  cursor : Int
  sessions : List SessionListItem
  deriving Repr, DecidableEq

def itemKey (item : SessionListItem) : SessionKey :=
  ⟨item.source, item.sessionId⟩

namespace Poller

def initial : Poller :=
  { cursor := 0, sessions := [] }

def take (poller : Poller) (items : List SessionListItem) : Poller :=
  { cursor := (items.map (·.updatedAt)).foldl max poller.cursor
    sessions := KeyedTable.merge itemKey poller.sessions items }

def session (poller : Poller) (key : SessionKey) : Option SessionListItem :=
  KeyedTable.lookup itemKey key poller.sessions

end Poller

structure Polling where
  world : World
  poller : Poller

inductive PollingLabel where
  | world (label : WorldLabel)
  | poll (read readClock : Bool)

inductive PollingSeen where
  | world (seen : WorldSeen)
  | polled (items : List SessionListItem)

namespace Polling

def initial (db : Db) (hub : List BroadcastEnvelope) (clock : Nat) : Polling :=
  { world := World.initial db hub clock, poller := Poller.initial }

/-- A poll that fails is made again. -/
def poll (polling : Polling) (read readClock : Bool) :
    Option (Polling × List PollingSeen) :=
  let world := polling.world
  match Sessions.list { since := polling.poller.cursor }
      (if read then some world.store.db else none)
      (if readClock then some (world.clock : Int) else none) with
  | .error _ => some (polling, [])
  | .ok items =>
      some ({ polling with poller := polling.poller.take items },
        [.polled items])

def step (config : WsConfig) (polling : Polling) :
    PollingLabel → Option (Polling × List PollingSeen)
  | .world label =>
      (polling.world.step config label).map fun (world, seen) =>
        ({ polling with world }, seen.map .world)
  | .poll read readClock => polling.poll read readClock

def machine (config : WsConfig) :
    Machine Polling PollingLabel PollingSeen where
  step := step config

/-- The wall clock does not go back. -/
def clockForward (polling : Polling) : PollingLabel → Prop
  | .world label => polling.world.clockForward label
  | .poll _ _ => True

instance (polling : Polling) (label : PollingLabel) :
    Decidable (polling.clockForward label) := by
  unfold clockForward
  split <;> infer_instance

/-- A session's write that commits has a stamp after all that the client has
seen. -/
def stampedLater (polling : Polling) : PollingLabel → Prop
  | .world (.transact faults) =>
      ∀ after ∈ polling.world.store.transact faults, ∀ commit ∈ commits after.2,
        commit.key.isSentinel = true ∨ polling.poller.cursor = 0 ∨
          polling.poller.cursor < commit.nowMs
  | _ => True

instance (polling : Polling) (label : PollingLabel) :
    Decidable (polling.stampedLater label) := by
  unfold stampedLater
  split <;> infer_instance

end Polling

/-- The stored projection of a session, as a client that reads it at some moment
should have it: a `Working` that has gone stale by then is an `Idle`. -/
def shownItem (db : Db) (key : SessionKey) (readAt : Int) :
    Option SessionListItem :=
  if key.isSentinel then none
  else
    (db.projection key).bind fun row => row.state.parse.map fun stored =>
      { source := key.source
        sessionId := key.sessionId
        currentState :=
          if stored.currentState = .working ∧
              i64SaturatingSub readAt stored.lastEventAtMs > staleWorkingMs then
            .idle
          else stored.currentState
        lastEventKind := stored.lastEventKind
        lastEventAtMs := stored.lastEventAtMs
        updatedAt := row.updatedAt
        lastPid := stored.lastPid
        cwd := stored.cwd
        startedAt := stored.startedAt }

/-- The copy of every session is its stored projection, but for the moment at
which it was read. -/
def Copied (poller : Poller) (db : Db) : Prop :=
  ∀ key, ∃ readAt, poller.session key = shownItem db key readAt

/-! What one answer brings. -/

section Answer

variable {db : Db} {key : SessionKey} {poller : Poller} {nowMs : Int}

/-- The session's row is one of those that the next poll asks for. -/
structure Due (poller : Poller) (db : Db) (key : SessionKey) : Prop where
  user : key.isSentinel = false
  row : ∃ row, db.projection key = some row ∧ row.state.parse.isSome = true ∧
    (poller.cursor = 0 ∨ poller.cursor < row.updatedAt)

/-- A row of the list has the fields of the projection that is stored in it. -/
theorem item_all (nowMs : Int) (row : Db.ProjectionRow) :
    Sessions.item [] nowMs row = row.state.parse.map fun stored =>
      { source := row.source
        sessionId := row.sessionId
        currentState := currentStateForRead stored nowMs
        lastEventKind := stored.lastEventKind
        lastEventAtMs := stored.lastEventAtMs
        updatedAt := row.updatedAt
        lastPid := stored.lastPid
        cwd := stored.cwd
        startedAt := stored.startedAt } := by
  unfold Sessions.item
  cases row.state.parse with
  | none => rfl
  | some stored => simp

theorem item_key {row : Db.ProjectionRow} {item : SessionListItem}
    (made : Sessions.item [] nowMs row = some item) : itemKey item = row.key := by
  rw [item_all, Option.map_eq_some_iff] at made
  obtain ⟨stored, _, rfl⟩ := made
  rfl

theorem item_isSome (nowMs : Int) (row : Db.ProjectionRow) :
    (Sessions.item [] nowMs row).isSome = row.state.parse.isSome := by
  rw [item_all, Option.isSome_map]

theorem shownItem_eq (db : Db) (key : SessionKey) (nowMs : Int) :
    shownItem db key nowMs = if key.isSentinel then none
      else (db.projection key).bind (Sessions.item [] nowMs) := by
  unfold shownItem
  split
  · rfl
  · cases found : db.projection key with
    | none => rfl
    | some row =>
        have named : row.key = key := KeyedTable.lookup_key found
        subst named
        simp only [Option.bind_some, item_all, currentStateForRead]
        rfl

/-- The rows of a poll. -/
def answer (poller : Poller) (db : Db) (nowMs : Int) : List SessionListItem :=
  (db.selectSessions poller.cursor none).filterMap (Sessions.item [] nowMs)

theorem poll_answers {polling : Polling} (positive : 0 ≤ polling.poller.cursor) :
    polling.poll true true =
      let items := answer polling.poller polling.world.store.db
        polling.world.clock
      some ({ polling with poller := polling.poller.take items },
        [.polled items]) := by
  have unsigned : ¬ polling.poller.cursor < 0 := by omega
  simp [Polling.poll, Sessions.list, Sessions.stateFilter, unsigned, bind,
    Except.bind, pure, Except.pure, answer]

theorem poll_cases {polling next : Polling} {read readClock : Bool}
    {out : List PollingSeen} (positive : 0 ≤ polling.poller.cursor)
    (polled : polling.poll read readClock = some (next, out)) :
    next = polling ∧ out = [] ∨
      ∃ items, items = answer polling.poller polling.world.store.db
          polling.world.clock ∧
        next = { polling with poller := polling.poller.take items } ∧
        out = [.polled items] := by
  by_cases both : read = true ∧ readClock = true
  · obtain ⟨rfl, rfl⟩ := both
    rw [poll_answers positive] at polled
    cases polled
    exact .inr ⟨_, rfl, rfl, rfl⟩
  · left
    have unsigned : ¬ polling.poller.cursor < 0 := by omega
    have failed : polling.poll read readClock = some (polling, []) := by
      cases read with
      | false =>
          simp [Polling.poll, Sessions.list, Sessions.stateFilter, unsigned,
            bind, Except.bind, throw, throwThe, MonadExceptOf.throw]
      | true =>
          have unread : readClock = false := by
            simpa using both
          simp [Polling.poll, Sessions.list, Sessions.stateFilter, unsigned,
            unread, bind, Except.bind, throw, throwThe, MonadExceptOf.throw]
    rw [failed] at polled
    cases polled
    exact ⟨rfl, rfl⟩

theorem answer_keyed (wellFormed : db.WellFormed) :
    KeyedTable.Keyed itemKey (answer poller db nowMs) := by
  refine KeyedTable.Keyed.filterMap ?_ _ fun row item => item_key
  exact (Db.selectNonSentinelSessions_keyed wellFormed.keyed).filter _

theorem mem_selectSessions {row : Db.ProjectionRow} :
    row ∈ db.selectSessions poller.cursor none ↔
      row ∈ db.projections ∧ row.key.isSentinel = false ∧
        (poller.cursor ≤ 0 ∨ poller.cursor < row.updatedAt) := by
  simp [Db.selectSessions, SessionKey.isSentinel, daemonSentinelSource,
    Db.ProjectionRow.key, and_assoc]

theorem shownItem_of_mem (wellFormed : db.WellFormed) {row : Db.ProjectionRow}
    (member : row ∈ db.projections) (user : row.key.isSentinel = false) :
    shownItem db row.key nowMs = Sessions.item [] nowMs row := by
  have found : db.projection row.key = some row :=
    KeyedTable.lookup_of_mem wellFormed.keyed member
  rw [shownItem_eq, user, found]
  rfl

/-- The answer shows a session as it is, and leaves out none that is due. -/
theorem lookup_answer (wellFormed : db.WellFormed) (key : SessionKey) :
    KeyedTable.lookup itemKey key (answer poller db nowMs) = none ∧
        ¬ Due poller db key ∨
      ∃ item, KeyedTable.lookup itemKey key (answer poller db nowMs) =
          some item ∧ shownItem db key nowMs = some item := by
  cases found : KeyedTable.lookup itemKey key (answer poller db nowMs) with
  | none =>
      refine .inl ⟨rfl, fun due => ?_⟩
      obtain ⟨row, present, parsed, late⟩ := due.row
      have named : row.key = key := KeyedTable.lookup_key present
      obtain ⟨item, made⟩ := Option.isSome_iff_exists.mp
        ((item_isSome nowMs row).trans parsed)
      have inside : item ∈ answer poller db nowMs := by
        refine List.mem_filterMap.mpr ⟨row, mem_selectSessions.mpr ⟨?_, ?_, ?_⟩,
          made⟩
        · exact KeyedTable.lookup_mem present
        · rw [named]
          exact due.user
        · exact late.imp_left le_of_eq
      exact KeyedTable.lookup_eq_none.mp found item inside
        ((item_key made).trans named)
  | some item =>
      obtain ⟨row, selected, made⟩ :=
        List.mem_filterMap.mp (KeyedTable.lookup_mem found)
      obtain ⟨member, user, _⟩ := mem_selectSessions.mp selected
      have named : row.key = key :=
        (item_key made).symm.trans (KeyedTable.lookup_key found)
      subst named
      exact .inr ⟨item, rfl, (shownItem_of_mem wellFormed member user).trans made⟩

theorem le_largest (stamps : List Int) (cursor : Int) :
    cursor ≤ stamps.foldl max cursor := by
  induction stamps generalizing cursor with
  | nil => exact le_refl _
  | cons stamp rest induction =>
      rw [List.foldl_cons]
      exact (le_max_left cursor stamp).trans (induction _)

end Answer

/-! Between polls, what is not copied is due. -/

structure Trails (poller : Poller) (db : Db) : Prop where
  wellFormed : db.WellFormed
  positive : 0 ≤ poller.cursor
  copied : ∀ key, (∃ readAt, poller.session key = shownItem db key readAt) ∨
    Due poller db key

section Trails

variable {db next : Db} {poller : Poller}

theorem Trails.take (trails : Trails poller db) (nowMs : Int) :
    Copied (poller.take (answer poller db nowMs)) db := by
  intro key
  have merged : (poller.take (answer poller db nowMs)).session key =
      (KeyedTable.lookup itemKey key (answer poller db nowMs)).or
        (poller.session key) :=
    KeyedTable.lookup_merge (answer_keyed trails.wellFormed)
  rw [merged]
  rcases lookup_answer trails.wellFormed key with
    ⟨absent, early⟩ | ⟨item, answered, shows⟩
  · obtain ⟨readAt, same⟩ := (trails.copied key).resolve_right early
    exact ⟨readAt, by rw [absent, Option.none_or, same]⟩
  · exact ⟨nowMs, by rw [answered, shows, Option.some_or]⟩

/-- A write leaves the other sessions alone and makes its own due. -/
theorem Trails.commit {request : WriteRequest} {nowMs : Int}
    (trails : Trails poller db) (appends : request.Appends nowMs db next)
    (later : (request.columns nowMs).key.isSentinel = true ∨
      poller.cursor = 0 ∨ poller.cursor < nowMs) : Trails poller next where
  wellFormed := appends.wellFormed trails.wellFormed
  positive := trails.positive
  copied := by
    intro key
    by_cases own : (request.columns nowMs).key = key
    · subst own
      cases user : (request.columns nowMs).key.isSentinel with
      | true =>
          rcases trails.copied (request.columns nowMs).key with
            ⟨readAt, same⟩ | due
          · refine .inl ⟨readAt, same.trans ?_⟩
            rw [shownItem, shownItem, user, if_pos rfl, if_pos rfl]
          · rw [due.user] at user
            cases user
      | false =>
          refine .inr ⟨user, _, appends.projection_self, ?_, ?_⟩
          · cases request with
            | event => rfl
            | recordingStarted | recordingEnded => cases user
          · exact later.resolve_left (by simp [user])
    · have same := appends.projection_ne own
      rcases trails.copied key with ⟨readAt, copied⟩ | ⟨user, row, found, due⟩
      · refine .inl ⟨readAt, ?_⟩
        rw [copied, shownItem, shownItem, same]
      · exact .inr ⟨user, row, same.trans found, due⟩

/-- The first poll asks for everything. -/
theorem due_initial (db : Db) (key : SessionKey) :
    (∃ readAt, Poller.initial.session key = shownItem db key readAt) ∨
      Due Poller.initial db key := by
  cases shows : shownItem db key 0 with
  | none => exact .inl ⟨0, shows.symm⟩
  | some item =>
      right
      rw [shownItem_eq] at shows
      split at shows
      · cases shows
      · rename_i user
        obtain ⟨row, found, made⟩ := Option.bind_eq_some_iff.mp shows
        refine ⟨by simpa using user, row, found, ?_, .inl rfl⟩
        rw [← item_isSome 0 row, made]
        rfl

end Trails

section Run

variable {config : WsConfig} {polling next : Polling} {label : PollingLabel}
variable {out : List PollingSeen}

theorem Trails.step (trails : Trails polling.poller polling.world.store.db)
    (later : polling.stampedLater label)
    (taken : polling.step config label = some (next, out)) :
    Trails next.poller next.world.store.db := by
  cases label with
  | world label =>
      obtain ⟨⟨world, seen⟩, moved, same⟩ := Option.map_eq_some_iff.mp taken
      cases same
      rcases (World.step_moves moved).db with kept |
        ⟨faults, commit, rfl, committed, appends⟩
      · rw [kept]
        exact trails
      · exact trails.commit appends
          (later _ committed commit (List.mem_singleton.mpr rfl))
  | poll read readClock =>
      rcases poll_cases trails.positive taken with ⟨rfl, _⟩ | ⟨items, rfl, rfl, _⟩
      · exact trails
      · exact ⟨trails.wellFormed, trails.positive.trans (le_largest _ _),
          fun key => .inl (trails.take _ key)⟩

theorem trails_of_run {db : Db} {hub : List BroadcastEnvelope} {clock : Nat}
    {seen : List PollingSeen}
    (run : (Polling.machine config).Run Polling.stampedLater
      (Polling.initial db hub clock) polling seen)
    (wellFormed : db.WellFormed) :
    Trails polling.poller polling.world.store.db := by
  refine run.invariant
    (fun polling _ => Trails polling.poller polling.world.store.db) ?_ ?_
  · exact ⟨wellFormed, le_refl _, due_initial db⟩
  · exact fun _ trails later taken => trails.step later taken

end Run

/-- Where every session is written with a stamp after all that the client has
seen, a poll that is answered brings its copy up to the table. -/
theorem polls_are_complete {config : WsConfig} {db : Db}
    {hub : List BroadcastEnvelope} {clock : Nat} {polling next : Polling}
    {seen : List PollingSeen} {read readClock : Bool}
    {items : List SessionListItem}
    (run : (Polling.machine config).Run Polling.stampedLater
      (Polling.initial db hub clock) polling seen)
    (wellFormed : db.WellFormed)
    (polled : polling.step config (.poll read readClock) =
      some (next, [.polled items])) :
    Copied next.poller next.world.store.db := by
  have trails := trails_of_run run wellFormed
  rcases poll_cases trails.positive polled with ⟨_, silent⟩ | ⟨_, rfl, rfl, _⟩
  · cases silent
  · exact trails.take _

/-- A session begins and is polled; it goes on when the clock reads `again`. -/
def pollBetweenWrites (again : Nat) : List PollingLabel :=
  let write (kind : EventKind) :=
    (writing .ingest (System.bareHook "a" kind none)).map PollingLabel.world
  [.world (.clock 5)] ++ write .userPromptSubmit ++ [.poll true true,
    .world (.clock again)] ++ write .stop

/-- In a later millisecond, the next poll brings the change. -/
theorem polls_are_complete_laterMillisecond :
    ∃ (poller : Poller) (items : List SessionListItem) (db : Db),
      items.map (·.lastEventKind) = [.stop] ∧ Copied (poller.take items) db := by
  have meets : (Polling.machine smallConfig).execMeets Polling.stampedLater
      (Polling.initial Db.empty [] 0) (pollBetweenWrites 6) := by
    decide
  have ⟨polling, seen, run, checked⟩ := Machine.exec_check meets
    (fun result : Polling × List PollingSeen =>
      decide (0 ≤ result.1.poller.cursor ∧
        (answer result.1.poller result.1.world.store.db
          result.1.world.clock).map (·.lastEventKind) = [.stop]))
    (by decide)
  obtain ⟨positive, shows⟩ := of_decide_eq_true checked
  exact ⟨polling.poller, _, polling.world.store.db, shows,
    polls_are_complete run Db.wellFormed_empty (poll_answers positive)⟩

/-- The kind of the last event does not depend on the moment of the reading. -/
theorem Copied.lastEventKind {poller : Poller} {db : Db} {key : SessionKey}
    (copied : Copied poller db) (user : key.isSentinel = false) :
    (poller.session key).map (·.lastEventKind) =
      (db.stored key).map (·.lastEventKind) := by
  obtain ⟨readAt, same⟩ := copied key
  rw [same, shownItem, user, Db.stored, Db.selectSessionProjectionState]
  cases db.projection key with
  | none => rfl
  | some row =>
      simp only [Bool.false_eq_true, if_false, Option.bind_some,
        Option.map_some]
      cases row.state.parse <;> rfl

/-- In the same millisecond, no poll brings it. -/
theorem poll_misses_same_millisecond :
    ∃ (polling next : Polling) (seen : List PollingSeen)
      (items : List SessionListItem),
      (Polling.machine smallConfig).Run Polling.clockForward
        (Polling.initial Db.empty [] 0) polling seen ∧
      polling.step smallConfig (.poll true true) =
        some (next, [.polled items]) ∧
      ¬ Copied next.poller next.world.store.db := by
  have meets : (Polling.machine smallConfig).execMeets Polling.clockForward
      (Polling.initial Db.empty [] 0) (pollBetweenWrites 5) := by
    decide
  have ⟨polling, seen, run, checked⟩ := Machine.exec_check meets
    (fun result : Polling × List PollingSeen =>
      decide (0 ≤ result.1.poller.cursor ∧
        (((result.1.poller.take (answer result.1.poller
          result.1.world.store.db result.1.world.clock)).session
            ⟨"claude", "a"⟩).map (·.lastEventKind) ≠
          (result.1.world.store.db.stored ⟨"claude", "a"⟩).map
            (·.lastEventKind))))
    (by decide)
  obtain ⟨positive, differ⟩ := of_decide_eq_true checked
  exact ⟨polling, _, seen, _, run, poll_answers positive,
    fun copied => differ (copied.lastEventKind rfl)⟩

end Bowerbird.Daemon
