import Bowerbird.Api.Ws
import Bowerbird.Db.Queries
import Bowerbird.Projection.Publication

namespace Bowerbird.Daemon

open Protocol Foundation Projection Api

/-! One connection beside the writers, from before its upgrade to the end of the
daemon.  Other connections have receivers of their own and change nothing here. -/

inductive WriterTask where
  | main
  | ingest
  | liveness
  deriving Repr, DecidableEq

/-- Main writes the recording markers, the two tasks write events. -/
def WriterTask.writes : WriterTask → WriteRequest → Bool
  | .main, .event _ _ => false
  | .main, _ => true
  | _, .event _ _ => true
  | _, _ => false

structure World where
  store : Store WriterTask
  /-- The wall clock, in milliseconds since the epoch. -/
  clock : Nat
  shutdownRequested : Bool
  ingestWriterJoined : Bool
  livenessJoined : Bool
  wsCloseRequested : Bool
  /-- The Hello of an upgrade under way. -/
  hello : Option HelloFrame
  conn : Option Conn

inductive WorldLabel where
  | clock (ms : Nat)
  | begin (owner : WriterTask) (request : WriteRequest)
  | transact (faults : FaultPlan)
  | finish
  | requestShutdown
  | joinIngestWriter
  | joinLiveness
  | requestWsClose
  | computeHello (read : Bool)
  | upgrade
  | conn (label : ConnLabel)

inductive WorldSeen where
  | store (seen : StoreSeen WriterTask)
  | conn (seen : ConnSeen)

def protocolVersion : String := "1.0"

/-- A failed read gives conservative defaults. -/
def computeHelloDbFields (db : Db) (read : Bool) : Int × Bool :=
  if read then
    let (least, clean) := db.selectHelloDbFields
    (least.getD i64Max, clean)
  else (i64Max, false)

namespace World

def initial (db : Db) (hub : List BroadcastEnvelope) (clock : Nat) : World :=
  { store := { db, hub, inFlight := none }
    clock
    shutdownRequested := false
    ingestWriterJoined := false
    livenessJoined := false
    wsCloseRequested := false
    hello := none
    conn := none }

def joined (world : World) : WriterTask → Bool
  | .main => false
  | .ingest => world.ingestWriterJoined
  | .liveness => world.livenessJoined

/-- A task is joined when it has ended: with no write of its own under way. -/
def resting (world : World) (owner : WriterTask) : Bool :=
  world.store.inFlight.all (·.owner ≠ owner)

def view (config : WsConfig) (world : World) : View :=
  { config
    hub := world.store.hub
    db := world.store.db
    clock := world.clock
    closeRequested := world.wsCloseRequested }

def liftStore (world : World)
    (result : Option (Store WriterTask × List (StoreSeen WriterTask))) :
    Option (World × List WorldSeen) :=
  result.map fun (store, seen) => ({ world with store }, seen.map .store)

def step (config : WsConfig) (world : World) :
    WorldLabel → Option (World × List WorldSeen)
  | .clock ms => some ({ world with clock := ms }, [])
  | .begin owner request =>
      if world.joined owner || !owner.writes request then none
      else world.liftStore (world.store.begin owner request world.clock)
  | .transact faults => world.liftStore (world.store.transact faults)
  | .finish => world.liftStore world.store.finish
  | .requestShutdown => some ({ world with shutdownRequested := true }, [])
  | .joinIngestWriter =>
      if world.shutdownRequested && world.resting .ingest then
        some ({ world with ingestWriterJoined := true }, [])
      else none
  | .joinLiveness =>
      if world.ingestWriterJoined && world.resting .liveness then
        some ({ world with livenessJoined := true }, [])
      else none
  | .requestWsClose =>
      if world.livenessJoined then
        some ({ world with wsCloseRequested := true }, [])
      else none
  | .computeHello read =>
      if world.shutdownRequested || world.conn.isSome then none
      else
        let (oldest, clean) := computeHelloDbFields world.store.db read
        some ({ world with
          hello := some {
            protocolVersion
            daemonVersion := config.daemonVersion
            oldestAvailableEventId := oldest
            daemonStartedAt := config.startedAtMs
            historyBeginsCleanly := clean } }, [])
  | .upgrade =>
      match world.hello, world.conn with
      | some hello, none =>
          some ({ world with
            hello := none
            conn := some (Conn.upgraded hello world.store.hub.length) },
            [.conn .upgraded])
      | _, _ => none
  | .conn label =>
      match world.conn with
      | none => none
      | some conn =>
          (conn.step (world.view config) label).map fun (conn, seen) =>
            ({ world with conn := some conn }, seen.map .conn)

def machine (config : WsConfig) : Machine World WorldLabel WorldSeen where
  step := step config

/-- The wall clock does not go back. -/
def clockForward (world : World) : WorldLabel → Prop
  | .clock ms => world.clock ≤ ms
  | _ => True

instance (world : World) (label : WorldLabel) :
    Decidable (world.clockForward label) := by
  unfold clockForward
  split <;> infer_instance

/-! What a step can do, said once. -/

inductive Moves (config : WsConfig) (world : World) :
    WorldLabel → World → List WorldSeen → Prop
  | clock (ms : Nat) :
      Moves config world (.clock ms) { world with clock := ms } []
  | begin {owner : WriterTask} {request : WriteRequest}
      {store : Store WriterTask} {seen : List (StoreSeen WriterTask)}
      (unjoined : world.joined owner = false)
      (writes : owner.writes request = true)
      (taken : world.store.begin owner request world.clock =
        some (store, seen)) :
      Moves config world (.begin owner request) { world with store }
        (seen.map .store)
  | transact {faults : FaultPlan} {store : Store WriterTask}
      {seen : List (StoreSeen WriterTask)}
      (taken : world.store.transact faults = some (store, seen)) :
      Moves config world (.transact faults) { world with store }
        (seen.map .store)
  | finish {store : Store WriterTask} {seen : List (StoreSeen WriterTask)}
      (taken : world.store.finish = some (store, seen)) :
      Moves config world .finish { world with store } (seen.map .store)
  | flagged {label : WorldLabel} {shutdownRequested ingestWriterJoined
        livenessJoined wsCloseRequested : Bool} {hello : Option HelloFrame}
      (ingest : ingestWriterJoined = true →
        world.ingestWriterJoined = true ∨ world.resting .ingest = true)
      (liveness : livenessJoined = true →
        world.livenessJoined = true ∨
          world.ingestWriterJoined = true ∧ world.resting .liveness = true)
      (closes : wsCloseRequested = true →
        world.wsCloseRequested = true ∨ world.livenessJoined = true)
      (kept : (world.ingestWriterJoined = true → ingestWriterJoined = true) ∧
        (world.livenessJoined = true → livenessJoined = true) ∧
        (world.wsCloseRequested = true → wsCloseRequested = true)) :
      Moves config world label
        { world with
          shutdownRequested, ingestWriterJoined, livenessJoined
          wsCloseRequested, hello } []
  | upgraded {hello : HelloFrame} (absent : world.conn = none) :
      Moves config world .upgrade
        { world with
          hello := none
          conn := some (Conn.upgraded hello world.store.hub.length) }
        [.conn .upgraded]
  | conn {label : ConnLabel} {conn next : Conn} {seen : List ConnSeen}
      (present : world.conn = some conn)
      (moves : Conn.Moves (world.view config) conn label next seen) :
      Moves config world (.conn label) { world with conn := some next }
        (seen.map .conn)

section Moves

variable {config : WsConfig} {world next : World} {label : WorldLabel}
variable {out : List WorldSeen}

theorem liftStore_cases
    {result : Option (Store WriterTask × List (StoreSeen WriterTask))}
    (taken : world.liftStore result = some (next, out)) :
    ∃ store seen, result = some (store, seen) ∧
      next = { world with store } ∧ out = seen.map .store := by
  obtain ⟨⟨store, seen⟩, found, same⟩ := Option.map_eq_some_iff.mp taken
  cases same
  exact ⟨store, seen, found, rfl, rfl⟩

theorem step_moves (taken : world.step config label = some (next, out)) :
    Moves config world label next out := by
  cases label with
  | clock ms =>
      cases taken
      exact .clock ms
  | begin owner request =>
      simp only [step] at taken
      split at taken
      · cases taken
      · rename_i allowed
        simp only [Bool.or_eq_true, Bool.not_eq_true', not_or,
          Bool.not_eq_true, Bool.not_eq_false] at allowed
        obtain ⟨store, seen, found, rfl, rfl⟩ := liftStore_cases taken
        exact .begin allowed.1 allowed.2 found
  | transact faults =>
      obtain ⟨store, seen, found, rfl, rfl⟩ := liftStore_cases taken
      exact .transact found
  | finish =>
      obtain ⟨store, seen, found, rfl, rfl⟩ := liftStore_cases taken
      exact .finish found
  | requestShutdown =>
      cases taken
      exact .flagged .inl .inl .inl ⟨id, id, id⟩
  | joinIngestWriter =>
      simp only [step] at taken
      split at taken
      · rename_i allowed
        cases taken
        rw [Bool.and_eq_true] at allowed
        exact .flagged (fun _ => .inr allowed.2) .inl .inl ⟨fun _ => rfl, id, id⟩
      · cases taken
  | joinLiveness =>
      simp only [step] at taken
      split at taken
      · rename_i allowed
        cases taken
        rw [Bool.and_eq_true] at allowed
        exact .flagged .inl (fun _ => .inr allowed) .inl ⟨id, fun _ => rfl, id⟩
      · cases taken
  | requestWsClose =>
      simp only [step] at taken
      split at taken
      · rename_i allowed
        cases taken
        exact .flagged .inl .inl (fun _ => .inr allowed)
          ⟨id, id, fun _ => rfl⟩
      · cases taken
  | computeHello read =>
      simp only [step] at taken
      split at taken
      · cases taken
      · cases taken
        exact .flagged .inl .inl .inl ⟨id, id, id⟩
  | upgrade =>
      simp only [step] at taken
      split at taken
      · rename_i hello absent
        cases taken
        exact .upgraded absent
      · cases taken
  | conn label =>
      simp only [step] at taken
      split at taken
      · cases taken
      · rename_i conn present
        obtain ⟨⟨after, seen⟩, moved, same⟩ := Option.map_eq_some_iff.mp taken
        cases same
        exact .conn present (Conn.step_moves moved)

/-- Only the commit of the write under way changes the database. -/
theorem Moves.db (moves : Moves config world label next out) :
    next.store.db = world.store.db ∨
      ∃ faults commit, label = .transact faults ∧
        world.store.transact faults = some (next.store, [.committed commit]) ∧
        commit.request.Appends commit.nowMs world.store.db next.store.db := by
  cases moves with
  | begin _ _ taken =>
      obtain ⟨_, _, _, rfl⟩ := Store.begin_cases taken
      exact .inl rfl
  | transact taken =>
      obtain ⟨_, _, _, committed | aborted⟩ := Store.transact_cases taken
      · obtain ⟨result, db, outcome, _, rfl, rfl⟩ := committed
        exact .inr ⟨_, _, rfl, taken,
          WriteRequest.outcome_appends (by rw [outcome])⟩
      · obtain ⟨_, _, _, _, rfl⟩ := aborted
        exact .inl rfl
  | finish taken =>
      obtain ⟨_, _, _, _, _, rfl⟩ := Store.finish_cases taken
      exact .inl rfl
  | clock | flagged | upgraded | conn => exact .inl rfl

end Moves

end World

/-! What the two halves of the world have reported. -/

namespace WorldSeen

def store? : WorldSeen → Option (StoreSeen WriterTask)
  | .store seen => some seen
  | .conn _ => none

def conn? : WorldSeen → Option ConnSeen
  | .store _ => none
  | .conn seen => some seen

end WorldSeen

def storeSeen (seen : List WorldSeen) : List (StoreSeen WriterTask) :=
  seen.filterMap WorldSeen.store?

def connSeen (seen : List WorldSeen) : List ConnSeen :=
  seen.filterMap WorldSeen.conn?

section Seen

variable (seen later : List WorldSeen)

@[simp] theorem storeSeen_append :
    storeSeen (seen ++ later) = storeSeen seen ++ storeSeen later := by
  simp [storeSeen]

@[simp] theorem connSeen_append :
    connSeen (seen ++ later) = connSeen seen ++ connSeen later := by
  simp [connSeen]

@[simp] theorem storeSeen_nil : storeSeen [] = [] :=
  rfl

@[simp] theorem connSeen_nil : connSeen [] = [] :=
  rfl

@[simp] theorem storeSeen_store (out : List (StoreSeen WriterTask)) :
    storeSeen (out.map .store) = out := by
  simp [storeSeen, WorldSeen.store?, Function.comp_def]

@[simp] theorem storeSeen_conn (out : List ConnSeen) :
    storeSeen (out.map .conn) = [] := by
  simp [storeSeen, WorldSeen.store?]

@[simp] theorem connSeen_conn (out : List ConnSeen) :
    connSeen (out.map .conn) = out := by
  simp [connSeen, WorldSeen.conn?, Function.comp_def]

@[simp] theorem connSeen_store (out : List (StoreSeen WriterTask)) :
    connSeen (out.map .store) = [] := by
  simp [connSeen, WorldSeen.conn?]

end Seen

/-! The store's half of a run is a run of the store. -/

section Store

variable {config : WsConfig} {ok : World → WorldLabel → Prop}
variable {start final : World} {seen : List WorldSeen}

theorem World.step_store {world next : World} {label : WorldLabel}
    {out : List WorldSeen} (moves : World.Moves config world label next out) :
    (Store.machine WriterTask).Run (fun _ _ => True) world.store next.store
      (storeSeen out) := by
  cases moves with
  | @begin owner request store seen unjoined writes taken =>
      rw [storeSeen_store]
      have stepped : (Store.machine WriterTask).step world.store
          (.begin owner request world.clock) = some (store, seen) := taken
      exact .single trivial stepped
  | @transact faults store seen taken =>
      rw [storeSeen_store]
      have stepped : (Store.machine WriterTask).step world.store
          (.transact faults) = some (store, seen) := taken
      exact .single trivial stepped
  | @finish store seen taken =>
      rw [storeSeen_store]
      have stepped : (Store.machine WriterTask).step world.store .finish =
          some (store, seen) := taken
      exact .single trivial stepped
  | clock ms => exact .start
  | flagged => exact .start
  | upgraded => exact .start
  | conn =>
      rw [storeSeen_conn]
      exact .start

theorem World.run_store (run : (World.machine config).Run ok start final seen) :
    (Store.machine WriterTask).Run (fun _ _ => True) start.store final.store
      (storeSeen seen) := by
  induction run with
  | start => exact .start
  | step _ _ taken induction =>
      rw [storeSeen_append]
      exact induction.trans (World.step_store (World.step_moves taken))

/-- A daemon that starts with nothing in flight. -/
theorem World.ledger (run : (World.machine config).Run ok start final seen)
    (wellFormed : start.store.db.WellFormed)
    (idle : start.store.inFlight = none) :
    Ledger start.store final.store (storeSeen seen) :=
  ledger_of_run (World.run_store run) wellFormed idle

end Store

end Bowerbird.Daemon
