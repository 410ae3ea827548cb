import Bowerbird.Api.Rest
import Bowerbird.Daemon.Delivery
import Bowerbird.Daemon.Mirror

namespace Bowerbird.Daemon

open Protocol Foundation Projection Api

/-! A client that catches up over REST and then opens a new connection: it lists
the sessions, pages the history of each from its cursor until the page is empty,
upgrades, and subscribes. -/

inductive ClientPhase where
  | discovering
  /-- The sessions still to page, and how far the first of them is. -/
  | paging (sessions : List String) (since : Int)
  | reconnecting
  deriving Repr, DecidableEq

structure Client where
  cursor : Int
  phase : ClientPhase
  deriving Repr, DecidableEq

structure Recovery where
  world : World
  client : Client

inductive RecoveryLabel where
  | world (label : WorldLabel)
  | discover (read readClock : Bool)
  | page (read : Bool)

inductive RecoverySeen where
  | world (seen : WorldSeen)
  | listed (items : List SessionListItem)
  /-- A page, with the last event id that its SELECT could see. -/
  | paged (sessionId : String) (response : EventListResponse) (asOf : Int)

namespace Recovery

def initial (db : Db) (hub : List BroadcastEnvelope) (clock : Nat)
    (cursor : Int) : Recovery :=
  { world := World.initial db hub clock
    client := { cursor, phase := .discovering } }

def opens : WorldLabel → Bool
  | .computeHello _ | .upgrade => true
  | _ => false

def pageNext (cursor : Int) : List String → ClientPhase
  | [] => .reconnecting
  | sessions => .paging sessions cursor

def discover (recovery : Recovery) (read readClock : Bool) :
    Option (Recovery × List RecoverySeen) :=
  let world := recovery.world
  match recovery.client.phase with
  | .discovering =>
      match Sessions.list {} (if read then some world.store.db else none)
          (if readClock then some (world.clock : Int) else none) with
      | .error _ => some (recovery, [])
      | .ok items =>
          some ({ recovery with
            client := { recovery.client with
              phase := pageNext recovery.client.cursor
                (items.map (·.sessionId)) } },
            [.listed items])
  | _ => none

/-- A page that cannot be read is asked for again; a session that is gone is
passed over. -/
def page (recovery : Recovery) (read : Bool) :
    Option (Recovery × List RecoverySeen) :=
  let db := recovery.world.store.db
  let client := recovery.client
  match client.phase with
  | .paging (sessionId :: rest) since =>
      match Events.list sessionId since (if read then some db else none) with
      | .error (.notFound _) =>
          some ({ recovery with
            client := { client with phase := pageNext client.cursor rest } }, [])
      | .error _ => some (recovery, [])
      | .ok response =>
          let phase :=
            match response.cursor with
            | some next => .paging (sessionId :: rest) next
            | none => pageNext client.cursor rest
          some ({ recovery with client := { client with phase } },
            [.paged sessionId response db.eventSeq])
  | _ => none

def step (config : WsConfig) (recovery : Recovery) :
    RecoveryLabel → Option (Recovery × List RecoverySeen)
  | .world label =>
      if opens label && recovery.client.phase ≠ .reconnecting then none
      else
        (recovery.world.step config label).map fun (world, seen) =>
          ({ recovery with world }, seen.map .world)
  | .discover read readClock => recovery.discover read readClock
  | .page read => recovery.page read

def machine (config : WsConfig) :
    Machine Recovery RecoveryLabel RecoverySeen where
  step := step config

/-- The socket takes what a step sends. -/
def sends (_ : Recovery) : RecoveryLabel → Prop
  | .world label => Daemon.sends label = true
  | _ => True

instance (recovery : Recovery) (label : RecoveryLabel) :
    Decidable (recovery.sends label) := by
  unfold sends
  split <;> infer_instance

end Recovery

def worldOf : RecoverySeen → List WorldSeen
  | .world seen => [seen]
  | _ => []

def worldSeen (seen : List RecoverySeen) : List WorldSeen :=
  seen.flatMap worldOf

def pageEvents : RecoverySeen → List Event
  | .paged _ response _ => response.events
  | _ => []

def Returned (seen : List RecoverySeen) (event : Event) : Prop :=
  event ∈ seen.flatMap pageEvents

def Delivered (seen : List WorldSeen) (event : Event) : Prop :=
  event ∈ (connSeen seen).filterMap eventFrame?

instance (seen : List RecoverySeen) (event : Event) :
    Decidable (Returned seen event) :=
  inferInstanceAs (Decidable (_ ∈ _))

instance (seen : List WorldSeen) (event : Event) :
    Decidable (Delivered seen event) :=
  inferInstanceAs (Decidable (_ ∈ _))

/-- Committed after the last page of its session, if there was one, and published
before the drain of the subscribe. -/
structure InGap (store : Store WriterTask) (seen : List RecoverySeen)
    (sinceDrain : List WorldSeen) (event : Event) : Prop where
  unpaged : ∀ response asOf, .paged event.sessionId response asOf ∈ seen →
    response.cursor = none → asOf < event.eventId
  drained : .event event ∉ published (storeSeen sinceDrain) ++ store.owed

theorem worldSeen_world (out : List WorldSeen) :
    worldSeen (out.map .world) = out := by
  simp [worldSeen, worldOf, List.flatMap_map]

/-! What a step can do, said once. -/

inductive Recovery.Moves (config : WsConfig) (recovery : Recovery) :
    RecoveryLabel → Recovery → List RecoverySeen → Prop
  | world {label : WorldLabel} {world : World} {seen : List WorldSeen}
      (taken : recovery.world.step config label = some (world, seen)) :
      Moves config recovery (.world label) { recovery with world }
        (seen.map .world)
  | idle {label : RecoveryLabel} : Moves config recovery label recovery []
  | moved {label : RecoveryLabel} (sessions : List String)
      (out : List RecoverySeen)
      (listed : out = [] ∨ ∃ items, out = [.listed items]) :
      Moves config recovery label
        { recovery with client := { recovery.client with
          phase := pageNext recovery.client.cursor sessions } } out
  | paged {read : Bool} {sessionId : String} {rest : List String} {since : Int}
      {response : EventListResponse} {phase : ClientPhase}
      (paging : recovery.client.phase = .paging (sessionId :: rest) since)
      (answered : Events.list sessionId since (some recovery.world.store.db) =
        .ok response)
      (after : (∃ next, response.cursor = some next ∧
          phase = .paging (sessionId :: rest) next) ∨
        response.cursor = none ∧
          phase = pageNext recovery.client.cursor rest) :
      Moves config recovery (.page read)
        { recovery with client := { recovery.client with phase } }
        [.paged sessionId response recovery.world.store.db.eventSeq]

section Moves

variable {config : WsConfig} {recovery next : Recovery}
variable {label : RecoveryLabel} {out : List RecoverySeen}

theorem Recovery.step_moves
    (taken : recovery.step config label = some (next, out)) :
    Moves config recovery label next out := by
  cases label with
  | world label =>
      simp only [step] at taken
      split at taken
      · cases taken
      · obtain ⟨⟨world, seen⟩, found, same⟩ := Option.map_eq_some_iff.mp taken
        cases same
        exact .world found
  | discover read readClock =>
      simp only [step, discover] at taken
      split at taken
      · split at taken
        · cases taken
          exact .idle
        · rename_i items _
          cases taken
          exact .moved _ _ (.inr ⟨items, rfl⟩)
      · cases taken
  | page read =>
      simp only [step, page] at taken
      split at taken
      · rename_i sessionId rest since paging
        split at taken
        · cases taken
          exact .moved rest [] (.inl rfl)
        · cases taken
          exact .idle
        · rename_i response answered
          have opened : read = true := by
            cases read with
            | true => rfl
            | false => cases answered
          subst opened
          cases taken
          refine .paged paging answered ?_
          cases cursor : response.cursor with
          | none => exact .inr ⟨rfl, rfl⟩
          | some next => exact .inl ⟨next, rfl, rfl⟩
      · cases taken

end Moves

/-! The pages of a session hold all of its history up to the last of them. -/

section Paging

/-- The session's events above the cursor and up to a bound are returned. -/
def ReturnedUpTo (recovery : Recovery) (seen : List RecoverySeen)
    (sessionId : String) (bound : Int) : Prop :=
  ∀ event, Events.Listed recovery.world.store.db event →
    event.sessionId = sessionId → recovery.client.cursor < event.eventId →
    event.eventId ≤ bound → Returned seen event

structure Paging (cursor : Int) (recovery : Recovery)
    (seen : List RecoverySeen) : Prop where
  kept : recovery.client.cursor = cursor
  since : ∀ sessionId rest since,
    recovery.client.phase = .paging (sessionId :: rest) since →
      (since = cursor ∨ since ≤ recovery.world.store.db.eventSeq) ∧
        ReturnedUpTo recovery seen sessionId since
  done : ∀ sessionId response asOf, .paged sessionId response asOf ∈ seen →
    response.cursor = none → asOf ≤ recovery.world.store.db.eventSeq ∧
      ReturnedUpTo recovery seen sessionId asOf

variable {config : WsConfig} {cursor : Int} {recovery next : Recovery}
variable {label : RecoveryLabel} {seen out : List RecoverySeen}

theorem Returned.later {event : Event} (returned : Returned seen event)
    (out : List RecoverySeen) : Returned (seen ++ out) event := by
  rw [Returned, List.flatMap_append]
  exact List.mem_append_left _ returned

/-- A later row is beyond what an earlier SELECT could see. -/
theorem listed_old {request : WriteRequest} {nowMs : Int} {db after : Db}
    {event : Event} (appends : request.Appends nowMs db after)
    (listed : Events.Listed after event) (old : event.eventId ≤ db.eventSeq) :
    Events.Listed db event := by
  obtain ⟨row, member, user, read⟩ := listed
  rw [appends.events, List.mem_append, List.mem_singleton] at member
  rcases member with member | rfl
  · exact ⟨row, member, user, read⟩
  · have id := (Events.ofRow_fields read).1
    rw [id] at old
    exact absurd old (not_le_of_gt (Int.lt_succ db.eventSeq))

theorem ReturnedUpTo.world {world : World} {worldLabel : WorldLabel}
    {seen' : List WorldSeen} {sessionId : String} {bound : Int}
    (returned : ReturnedUpTo recovery seen sessionId bound)
    (moves : World.Moves config recovery.world worldLabel world seen')
    (within : bound = recovery.client.cursor ∨
      bound ≤ recovery.world.store.db.eventSeq) (out : List RecoverySeen) :
    ReturnedUpTo { recovery with world } (seen ++ out) sessionId bound := by
  intro event listed own above below
  refine Returned.later ?_ out
  rcases moves.db with same | ⟨_, _, _, _, appends⟩
  · exact returned event (same ▸ listed) own above below
  · rcases within with start | old
    · exact absurd (lt_of_lt_of_le above (start ▸ below)) (lt_irrefl _)
    · exact returned event (listed_old appends listed (le_trans below old)) own
        above below

theorem eventSeq_moves {world after : World} {worldLabel : WorldLabel}
    {seen' : List WorldSeen}
    (moves : World.Moves config world worldLabel after seen') :
    world.store.db.eventSeq ≤ after.store.db.eventSeq := by
  rcases moves.db with same | ⟨_, _, _, _, appends⟩
  · rw [same]
  · rw [appends.eventSeq]
    exact le_of_lt (Int.lt_succ _)

theorem pageNext_since {start since : Int} {sessions rest : List String}
    {sessionId : String}
    (paging : Recovery.pageNext start sessions = .paging (sessionId :: rest) since) :
    since = start := by
  cases sessions with
  | nil => cases paging
  | cons head tail =>
      cases paging
      rfl

/-- At its own cursor, a session owes nothing yet. -/
theorem returnedUpTo_start (recovery : Recovery) (seen : List RecoverySeen)
    (sessionId : String) :
    ReturnedUpTo recovery seen sessionId recovery.client.cursor := by
  intro event _ _ above below
  exact absurd (lt_of_lt_of_le above below) (lt_irrefl _)

/-- A page holds everything of its session above the place it was read from. -/
theorem ReturnedUpTo.page {phase : ClientPhase} {sessionId : String}
    {since bound : Int} {response : EventListResponse}
    (returned : ReturnedUpTo recovery seen sessionId since)
    (answered : Events.list sessionId since (some recovery.world.store.db) =
      .ok response) :
    ReturnedUpTo { recovery with client := { recovery.client with phase } }
      (seen ++ [.paged sessionId response recovery.world.store.db.eventSeq])
      sessionId bound := by
  intro event listed own above _
  by_cases late : since < event.eventId
  · obtain ⟨db, same, _, events, _⟩ := Events.list_ok answered
    cases same
    rw [Returned, List.flatMap_append, List.mem_append]
    refine .inr (List.mem_flatMap.mpr ⟨_, List.mem_singleton_self _, ?_⟩)
    rw [pageEvents, events]
    exact Events.mem_events.mpr ⟨listed, own, late⟩
  · exact (returned event listed own above (not_lt.mp late)).later _

theorem Paging.step (paging : Paging cursor recovery seen)
    (wellFormed : recovery.world.store.db.WellFormed)
    (moves : Recovery.Moves config recovery label next out) :
    Paging cursor next (seen ++ out) := by
  cases moves with
  | idle =>
      rw [List.append_nil]
      exact paging
  | @world worldLabel world worldOut taken =>
      have moved := World.step_moves taken
      have grows := eventSeq_moves moved
      exact {
        kept := paging.kept
        since := by
          intro sessionId rest since phase
          obtain ⟨within, returned⟩ := paging.since sessionId rest since phase
          refine ⟨within.imp_right fun old => le_trans old grows, ?_⟩
          refine returned.world moved ?_ _
          rw [paging.kept]
          exact within
        done := by
          intro sessionId response asOf member last
          have before : .paged sessionId response asOf ∈ seen := by
            simpa using member
          obtain ⟨old, returned⟩ := paging.done sessionId response asOf before
            last
          exact ⟨le_trans old grows, returned.world moved (.inr old) _⟩ }
  | moved sessions out listed =>
      exact {
        kept := paging.kept
        since := by
          intro sessionId rest since phase
          have start := pageNext_since phase
          subst start
          exact ⟨.inl paging.kept, returnedUpTo_start _ _ _⟩
        done := by
          intro sessionId response asOf member last
          have before : .paged sessionId response asOf ∈ seen := by
            rcases listed with rfl | ⟨items, rfl⟩ <;> simpa using member
          obtain ⟨old, returned⟩ := paging.done sessionId response asOf before
            last
          exact ⟨old, fun event listed own above below =>
            (returned event listed own above below).later _⟩ }
  | @paged read sessionId rest since response phase paged answered after =>
      obtain ⟨within, returned⟩ := paging.since sessionId rest since paged
      exact {
        kept := paging.kept
        since := by
          intro other others bound phase'
          rcases after with ⟨next, last, rfl⟩ | ⟨_, rfl⟩
          · cases phase'
            refine ⟨.inr ?_, returned.page answered⟩
            obtain ⟨db, same, _, events, cursor⟩ := Events.list_ok answered
            cases same
            rw [cursor] at last
            obtain ⟨event, found, rfl⟩ := Option.map_eq_some_iff.mp last
            have member := List.mem_of_getLast? found
            rw [events] at member
            obtain ⟨⟨row, inside, _, read⟩, _, _⟩ := Events.mem_events.mp member
            rw [(Events.ofRow_fields read).1]
            exact wellFormed.within row inside
          · have start := pageNext_since phase'
            subst start
            exact ⟨.inl paging.kept, returnedUpTo_start _ _ _⟩
        done := by
          intro other answer asOf member last
          rcases List.mem_append.mp member with before | here
          · obtain ⟨old, earlier⟩ := paging.done other answer asOf before last
            exact ⟨old, fun event listed own above below =>
              (earlier event listed own above below).later _⟩
          · rw [List.mem_singleton] at here
            cases here
            exact ⟨le_refl _, returned.page answered⟩ }

end Paging

/-! The run of the world inside a recovery, and what it delivers. -/

section Run

variable {config : WsConfig} {db : Db} {hub : List BroadcastEnvelope}
variable {clock : Nat} {cursor : Int} {final : Recovery}
variable {seen : List RecoverySeen}

theorem world_run {ok : Recovery → RecoveryLabel → Prop}
    {okWorld : World → WorldLabel → Prop} {start : Recovery}
    (allowed : ∀ recovery label, ok recovery (.world label) →
      okWorld recovery.world label)
    (run : (Recovery.machine config).Run ok start final seen) :
    (World.machine config).Run okWorld start.world final.world
      (worldSeen seen) := by
  refine Machine.Run.simulate Recovery.world worldOf ?_ run
  intro middle next seen out label _ meets taken
  cases Recovery.step_moves taken with
  | @world worldLabel world worldOut moved =>
      rw [show (worldOut.map RecoverySeen.world).flatMap worldOf = worldOut from
        worldSeen_world worldOut]
      exact .single (allowed middle worldLabel meets) moved
  | idle => exact .start
  | moved sessions out listed =>
      rcases listed with rfl | ⟨items, rfl⟩ <;> exact .start
  | paged => exact .start

theorem paging_of_run {ok : Recovery → RecoveryLabel → Prop}
    (run : (Recovery.machine config).Run ok
      (Recovery.initial db hub clock cursor) final seen)
    (wellFormed : db.WellFormed) : Paging cursor final seen := by
  refine run.invariant (Paging cursor) ?_ ?_
  · exact {
      kept := rfl
      since := by
        intro sessionId rest since phase
        cases phase
      done := by
        intro sessionId response asOf member
        cases member }
  · intro middle next seen out label before paging _ taken
    have ledger := World.ledger (world_run (fun _ _ _ => trivial) before :
      (World.machine config).Run (fun _ _ => True) _ _ _) wellFormed rfl
    exact paging.step (ledger.chained.wellFormed wellFormed)
      (Recovery.step_moves taken)

end Run

/-! What the subscription delivers. -/

section Streamed

variable {config : WsConfig} {world : World} {seen early late : List WorldSeen}

/-- Nothing is seen of a connection before its upgrade. -/
theorem upgraded_first {ok : World → WorldLabel → Prop} {db : Db}
    {hub : List BroadcastEnvelope} {clock : Nat}
    (run : (World.machine config).Run ok (World.initial db hub clock) world
      seen) :
    Trace.Each (fun past here => ∀ own, here = .conn own →
      own = .upgraded ∨ .conn .upgraded ∈ past) seen := by
  refine run.invariant (fun _ seen => Trace.Each _ seen) Trace.each_nil ?_
  intro middle next seen out label before each _ taken
  refine each.append ?_
  have connected := connected_of_run before
  intro past here rest split own same
  subst same
  have member : .conn own ∈ out := by simp [split]
  cases World.step_moves taken with
  | conn present moves =>
      unfold Connected at connected
      rw [present] at connected
      exact .inr (List.mem_append_left _ connected.upgraded)
  | upgraded =>
      rw [List.mem_singleton] at member
      cases member
      exact .inl rfl
  | begin _ _ _ | transact _ | finish _ => simp at member
  | clock | flagged => cases member

theorem dequeued_delivered (delivering : Delivering world seen)
    {past rest : List ConnSeen} {event : Event} {topics : List Topic}
    (split : connSeen seen = past ++ .dequeued (.event event) topics :: rest)
    (subscribed : .eventsAll ∈ active past) : Delivered seen event := by
  have own := delivering.active _ _ _ split _ _ rfl
  have judged : judged? (.dequeued (.event event) topics) =
      some (.event event) := by
    refine if_pos (List.any_eq_true.mpr ⟨.eventsAll, ?_, rfl⟩)
    rw [own]
    exact subscribed
  have member : .event event ∈ (connSeen seen).filterMap judged? :=
    List.mem_filterMap.mpr ⟨_, by simp [split], judged⟩
  rw [← delivering.judged] at member
  obtain ⟨here, inside, live⟩ := List.mem_filterMap.mp member
  cases here with
  | frame message origin =>
      cases origin with
      | live =>
          cases live
          exact List.mem_filterMap.mpr ⟨_, inside, rfl⟩
      | snapshot | control => cases live
  | upgraded | dequeued | lagged | drained | subscribed | unsubscribed
    | wsClose => cases live

/-- Once the receiver is empty, whatever was published since the drain has been
delivered, if there was no lag and the topic is still subscribed to. -/
theorem streamed (delivering : Delivering world seen)
    (first : Trace.Each (fun past here => ∀ own, here = .conn own →
      own = .upgraded ∨ .conn .upgraded ∈ past) seen)
    {states : List SessionCurrentState}
    (split : seen = early ++ .conn (.subscribed .eventsAll states) :: late)
    (kept : ∀ other ∈ connSeen late,
      other ≠ .unsubscribed .eventsAll ∧ isLag other = false)
    {conn : Conn} (present : world.conn = some conn)
    (caughtUp : world.store.hub.length ≤ conn.next) :
    ∃ before after, early = before ++ .conn .drained :: after ∧
      connSeen after = [] ∧
      ∀ event, .event event ∈ published (storeSeen (after ++ late)) →
        Delivered seen event := by
  obtain ⟨before, after, rfl, silent, drained⟩ := delivering.drained split rfl
  refine ⟨before, after, rfl, silent, fun event member => ?_⟩
  have whole : seen = before ++ .conn .drained ::
      (after ++ .conn (.subscribed .eventsAll states) :: late) := by
    rw [split]
    simp
  have upgraded := (first _ _ _ whole .drained rfl).resolve_left
    (fun same => by cases same)
  have connected := delivering.connected
  unfold Connected at connected
  rw [present] at connected
  have arrived := connected.arrivals
  have conns : connSeen seen = connSeen before ++ .drained ::
      .subscribed .eventsAll states :: connSeen late := by
    rw [whole, connSeen_append]
    refine congrArg (connSeen before ++ .drained :: ·) ?_
    change connSeen (after ++ _) = _
    rw [connSeen_append, silent]
    rfl
  have published_ : published (storeSeen (after ++ late)) =
      taken (connSeen late) := by
    have stores : storeSeen (after ++ late) = storeSeen (.conn .drained ::
        (after ++ .conn (.subscribed .eventsAll states) :: late)) := by
      rw [storeSeen_append]
      change _ = storeSeen (after ++ _)
      rw [storeSeen_append]
      rfl
    rw [whole, arrivals_append upgraded, ← whole, ← drained, conns, taken_append,
      List.drop_eq_nil_of_le caughtUp, List.append_nil,
      List.append_right_inj] at arrived
    rw [stores, arrived]
    rfl
  rw [published_] at member
  obtain ⟨here, inside, own⟩ := List.mem_flatMap.mp member
  obtain ⟨past, rest, within⟩ := List.append_of_mem inside
  cases here with
  | dequeued envelope topics =>
      rw [takenBy, List.mem_singleton] at own
      subst own
      have there : connSeen seen = (connSeen before ++ .drained ::
          .subscribed .eventsAll states :: past) ++
            .dequeued (.event event) topics :: rest := by
        rw [conns, within]
        simp
      refine dequeued_delivered delivering there ?_
      rw [active_append]
      change .eventsAll ∈ past.foldl changeTopics
        ((active (connSeen before)).insert .eventsAll)
      refine topics_kept List.mem_insert_self fun unsubscribed => ?_
      exact (kept _ (by rw [within]; simp [unsubscribed])).1 rfl
  | lagged => cases (kept _ inside).2
  | upgraded | frame | drained | subscribed | unsubscribed | wsClose =>
      cases own

end Streamed

/-- Every event above the cursor is in a page or delivered, but for those
committed after the last page of their session and published before the drain of
the subscribe. -/
theorem reconnect_recovers {config : WsConfig} {db : Db}
    {hub : List BroadcastEnvelope} {clock : Nat} {cursor : Int}
    {final : Recovery} {seen : List RecoverySeen}
    (run : (Recovery.machine config).Run Recovery.sends
      (Recovery.initial db hub clock cursor) final seen)
    (wellFormed : db.WellFormed) {early late : List WorldSeen}
    {states : List SessionCurrentState}
    (split : worldSeen seen =
      early ++ .conn (.subscribed .eventsAll states) :: late)
    (kept : ∀ other ∈ connSeen late,
      other ≠ .unsubscribed .eventsAll ∧ isLag other = false)
    {conn : Conn} (present : final.world.conn = some conn)
    (caughtUp : final.world.store.hub.length ≤ conn.next)
    (idle : final.world.store.inFlight = none) :
    ∃ before after, early = before ++ .conn .drained :: after ∧
      connSeen after = [] ∧
      ∀ event, Events.Listed final.world.store.db event →
        cursor < event.eventId →
        Returned seen event ∨ Delivered (worldSeen seen) event ∨
          InGap final.world.store seen (after ++ late) event := by
  have ran : (World.machine config).Run (fun _ label => sends label = true)
      _ _ _ := world_run (fun _ _ allowed => allowed) run
  obtain ⟨before, after, cut, silent, delivers⟩ := streamed
    (delivering_of_run ran) (upgraded_first ran) split kept present caughtUp
  have paging := paging_of_run run wellFormed
  refine ⟨before, after, cut, silent, fun event listed above => ?_⟩
  by_cases live : .event event ∈ published (storeSeen (after ++ late))
  · exact .inr (.inl (delivers event live))
  · by_cases paged : ∃ response asOf,
        .paged event.sessionId response asOf ∈ seen ∧
          response.cursor = none ∧ event.eventId ≤ asOf
    · obtain ⟨response, asOf, member, last, below⟩ := paged
      refine .inl ((paging.done _ response asOf member last).2 event listed rfl
        ?_ below)
      rw [paging.kept]
      exact above
    · refine .inr (.inr ⟨fun response asOf member last => ?_, ?_⟩)
      · by_contra late
        exact paged ⟨response, asOf, member, last, not_lt.mp late⟩
      · simpa [Store.owed, idle] using live

/-- A session with one event is listed and paged to its end; a second event comes
before the new connection subscribes, or after. -/
def reconnects (early : Bool) : List RecoveryLabel :=
  let write := (writing .ingest (System.bareHook "a" .preToolUse none)).map
    RecoveryLabel.world
  write ++ [.discover true true, .page true, .page true] ++
    (if early then write else []) ++
    (opening "events.*" []).map .world ++
    (if early then [] else write ++ [.world (.conn (.receive 0 true))])

/-- The second event is above the cursor, in no page, and never delivered. -/
theorem reconnect_misses_event_before_subscribe :
    ∃ (final : Recovery) (seen : List RecoverySeen) (event : Event),
      (Recovery.machine roomyConfig).Run Recovery.sends
        (Recovery.initial Db.empty [] 0 0) final seen ∧
      (∀ here ∈ connSeen (worldSeen seen), isLag here = false) ∧
      .subscribed .eventsAll [] ∈ connSeen (worldSeen seen) ∧
      (∃ conn ∈ final.world.conn,
        final.world.store.hub.length ≤ conn.next) ∧
      Events.Listed final.world.store.db event ∧ 0 < event.eventId ∧
      ¬ Returned seen event ∧ ¬ Delivered (worldSeen seen) event := by
  have meets : (Recovery.machine roomyConfig).execMeets Recovery.sends
      (Recovery.initial Db.empty [] 0 0) (reconnects true) := by
    decide
  have ⟨final, seen, run, checked⟩ := Machine.exec_check meets
    (fun result : Recovery × List RecoverySeen =>
      decide (∃ event ∈ result.1.world.store.db.events.filterMap Events.ofRow,
        (∀ here ∈ connSeen (worldSeen result.2), isLag here = false) ∧
        .subscribed .eventsAll [] ∈ connSeen (worldSeen result.2) ∧
        (∃ conn ∈ result.1.world.conn,
          result.1.world.store.hub.length ≤ conn.next) ∧
        Events.Listed result.1.world.store.db event ∧ 0 < event.eventId ∧
        ¬ Returned result.2 event ∧ ¬ Delivered (worldSeen result.2) event))
    (by decide)
  obtain ⟨event, _, missed⟩ := of_decide_eq_true checked
  exact ⟨final, seen, event, run, missed⟩

theorem reconnect_recovers_reconnects :
    ∃ (final : Recovery) (seen : List RecoverySeen)
      (early late before after : List WorldSeen),
      worldSeen seen = early ++ .conn (.subscribed .eventsAll []) :: late ∧
      early = before ++ .conn .drained :: after ∧
      ((final.world.store.db.events.filterMap Events.ofRow).filter fun event =>
        decide (Returned seen event)).length = 1 ∧
      ((connSeen (worldSeen seen)).filterMap eventFrame?).length = 1 ∧
      ∀ event, Events.Listed final.world.store.db event → 0 < event.eventId →
        Returned seen event ∨ Delivered (worldSeen seen) event ∨
          InGap final.world.store seen (after ++ late) event := by
  have meets : (Recovery.machine roomyConfig).execMeets Recovery.sends
      (Recovery.initial Db.empty [] 0 0) (reconnects false) := by
    decide
  have ⟨final, seen, run, checked⟩ := Machine.exec_check meets
    (fun result : Recovery × List RecoverySeen =>
      decide ((∀ here ∈ connSeen (worldSeen result.2),
          here ≠ .unsubscribed .eventsAll ∧ isLag here = false) ∧
        .subscribed .eventsAll [] ∈ connSeen (worldSeen result.2) ∧
        (∃ conn ∈ result.1.world.conn,
          result.1.world.store.hub.length ≤ conn.next) ∧
        result.1.world.store.inFlight = none ∧
        ((result.1.world.store.db.events.filterMap Events.ofRow).filter
          fun event => decide (Returned result.2 event)).length = 1 ∧
        ((connSeen (worldSeen result.2)).filterMap eventFrame?).length = 1))
    (by decide)
  obtain ⟨kept, subscribed, ⟨conn, present, caughtUp⟩, idle, one, live⟩ :=
    of_decide_eq_true checked
  obtain ⟨here, member, own⟩ := List.mem_filterMap.mp subscribed
  have same : here = .conn (.subscribed .eventsAll []) := by
    cases here with
    | store => cases own
    | conn other =>
        cases own
        rfl
  subst same
  obtain ⟨early, late, split⟩ := List.append_of_mem member
  have after_ : ∀ other ∈ connSeen late,
      other ≠ .unsubscribed .eventsAll ∧ isLag other = false := by
    intro other inside
    refine kept other ?_
    rw [split, connSeen_append]
    exact List.mem_append_right _ (List.mem_cons_of_mem _ inside)
  obtain ⟨before, after, cut, _, recovers⟩ := reconnect_recovers run
    Db.wellFormed_empty split after_ present caughtUp idle
  exact ⟨final, seen, early, late, before, after, split, cut, one, live,
    recovers⟩

end Bowerbird.Daemon
