import Bowerbird.Api.Rest
import Bowerbird.Daemon.IngestDrain
import Bowerbird.Daemon.Provenance

namespace Bowerbird.Daemon

open Protocol Foundation Projection Ingest Api

/-! Two front doors and one writer that trusts them.  What each door lets in is
what the writing side is given, and nothing else. -/

namespace System

/-- No task brings in anything but good envelopes. -/
def Brings (good : EventEnvelope → Prop) (_ : System) : SystemLabel → Prop
  | .spawn job => ∀ envelope, job.envelope? = some envelope → good envelope
  | _ => True

end System

namespace Process

/-- Whatever the step's door would send on is good. -/
def Lets (config : ProcessConfig) (good : EventEnvelope → Prop) (_ : Process) :
    ProcessLabel → Prop
  | .handle received => ∀ envelope,
      judge config.serde config.toolReactions received = some (.ok envelope) →
        good envelope
  | .replay body => ∀ line ∈ Replay.lines body, ∀ item,
      Replay.item? config.serde line = some item → good item.envelope
  | _ => True

theorem Lets.mono {config : ProcessConfig} {good weaker : EventEnvelope → Prop}
    {process : Process} {label : ProcessLabel}
    (lets : Lets config good process label)
    (weaken : ∀ envelope, good envelope → weaker envelope) :
    Lets config weaker process label := by
  cases label with
  | handle received =>
      exact fun envelope judged => weaken envelope (lets envelope judged)
  | replay body =>
      exact fun line inside item brings =>
        weaken item.envelope (lets line inside item brings)
  | work | main | requestShutdown | dropSenders | receive | observeShutdown
    | written | tick | probed | stopLiveness => exact trivial

/-- The database that a run opens on. -/
def opened (parseValue : String → Option Json.Value) (faults : FaultPlan)
    (db : Db) : Db :=
  (Tx.run faults (rebuildMissingProjections parseValue) db).2

section Accepted

variable {config : ProcessConfig} {good : EventEnvelope → Prop}
variable {process next : Process} {label : ProcessLabel}
variable {seen out : List ProcessSeen}

theorem accepted_of_moves (moves : Moves config process label next out)
    (lets : Lets config good process label) :
    ∀ item ∈ accepted out, good item.envelope := by
  intro item member
  cases moves with
  | worked => simp at member
  | @handled received channel reply _ handles =>
      rcases handle_cases handles with ⟨rfl, _⟩ | ⟨envelope, judged, sent, _⟩
      · simp [accepted, ProcessSeen.accepted] at member
      · obtain ⟨_, _, _, items⟩ := Channel.trySend_ok sent
        simp only [accepted, ProcessSeen.accepted, items, List.drop_left,
          List.head?_cons, Option.toList_some, List.flatMap_cons,
          List.flatMap_nil, List.append_nil, List.mem_singleton] at member
        subst member
        exact lets envelope judged
  | @replayed body channel response _ runs =>
      obtain ⟨sent, forwarded⟩ : ∃ sent, Replay.Forwarded _ _ _ _ _ sent :=
        Replay.run_forwarded process.channel body
      rw [runs] at forwarded
      have items : channel.items = process.channel.items ++ sent :=
        forwarded.items
      simp only [accepted, ProcessSeen.accepted, items, List.drop_left,
        List.flatMap_cons, List.flatMap_nil, List.append_nil] at member
      obtain ⟨line, inside, brings⟩ :=
        List.mem_filterMap.mp (forwarded.sublist.subset member)
      exact lets line inside item brings
  | handed => simp [accepted, ProcessSeen.accepted] at member
  | opens | closes | flagged | drained | rested | ticked | slept | stopped =>
      cases member

variable {ok : Process → ProcessLabel → Prop} {start final : Process}

theorem accepted_of_run (run : (machine config).Run ok start final seen)
    (lets : ∀ process label, ok process label →
      Lets config good process label) :
    ∀ item ∈ accepted seen, good item.envelope := by
  refine run.invariant (fun _ seen => ∀ item ∈ accepted seen,
    good item.envelope) (by simp) ?_
  intro middle next before out label _ all allowed taken item member
  rw [accepted_append, List.mem_append] at member
  rcases member with member | member
  · exact all item member
  · exact accepted_of_moves (step_moves taken).2 (lets middle label allowed)
      item member

/-! The writing side of a run is a run of the writing side. -/

theorem afterWork_system (label : SystemLabel) (system : System) :
    (process.afterWork config label system).system = system := by
  rcases afterWork_cases config process label system with
    same | ⟨_, _, _, _, _, same⟩ | ⟨_, _, _, _, _, same⟩ | same <;> rw [same]

theorem systemSeen_flatMap (seen : List ProcessSeen) :
    seen.flatMap (·.system?.toList) = systemSeen seen :=
  (List.filterMap_eq_flatMap_toList _ _).symm

theorem writeItem_envelope (item : IngestItem) :
    (writeItem item).envelope? = some item.envelope := by
  unfold writeItem
  split <;> rfl

/-- A new task is one step. -/
theorem spawned_run {system : System} (job : Job)
    (brings : ∀ envelope, job.envelope? = some envelope → good envelope) :
    System.machine.Run (System.Brings good) system (system.spawned job) [] :=
  have allowed : System.Brings good system (.spawn job) := brings
  Machine.Run.single allowed rfl

/-- A step of the daemon is at most one step of its writing side. -/
theorem system_of_moves (moves : Moves config process label next out)
    (waiting : ∀ item ∈ process.channel.items, good item.envelope) :
    System.machine.Run (System.Brings good) process.system next.system
      (systemSeen out) := by
  cases moves with
  | @worked label system inner permitted taken =>
      rw [afterWork_system, systemSeen_system]
      apply Machine.Run.single _ taken
      cases label with
      | spawn job => cases permitted
      | begin | transact | finish | select | refuse | clock | kill
        | cancelled => exact trivial
  | opens =>
      refine spawned_run .recordingStarted ?_
      intro envelope brings
      cases brings
  | closes =>
      refine spawned_run (.recordingEnded _) ?_
      intro envelope brings
      cases brings
  | ticked =>
      refine spawned_run .probe ?_
      intro envelope brings
      cases brings
  | @handed _ item channel draining _ received =>
      refine spawned_run (writeItem item) ?_
      intro envelope brings
      rw [writeItem_envelope] at brings
      cases brings
      apply waiting
      rw [(Channel.tryRecv_some received).1]
      exact List.mem_cons_self
  | flagged | handled | replayed | drained | rested | slept | stopped =>
      exact .start

variable {faults : FaultPlan} {db : Db}

theorem system_of_run
    (run : (machine config).Run ok (boot config.serde.parse faults db) final
      seen)
    (lets : ∀ process label, ok process label →
      Lets config good process label) :
    System.machine.Run (System.Brings good)
      (System.initial (opened config.serde.parse faults db) []) final.system
      (systemSeen seen) := by
  have probes : System.machine.Run (System.Brings good)
      (System.initial (opened config.serde.parse faults db) [])
      (boot config.serde.parse faults db).system [] := by
    refine spawned_run .probe ?_
    intro envelope brings
    cases brings
  have works : System.machine.Run (System.Brings good)
      (boot config.serde.parse faults db).system final.system
      (seen.flatMap (·.system?.toList)) := by
    refine Machine.Run.simulate Process.system (·.system?.toList) ?_ run
    intro middle next before out label early _ taken
    rw [systemSeen_flatMap]
    apply system_of_moves (step_moves taken).2
    intro item member
    apply accepted_of_run early lets item
    rw [← (draining_of_run early (draining_absent rfl rfl)).fifo]
    exact List.mem_append_right _ member
  rw [systemSeen_flatMap] at works
  exact probes.trans works

/-- What holds of all that the doors let in, and of the rows found, holds of all
that is written. -/
theorem flows_of_lets {holds : Db.ProjectionRow → Prop}
    (run : (machine config).Run ok (boot config.serde.parse faults db) final
      seen)
    (lets : ∀ process label, ok process label →
      Lets config good process label)
    (passed : PassedOn good holds)
    (rows : ∀ row ∈ (opened config.serde.parse faults db).projections,
      holds row) :
    final.system.Flows good holds
      ((systemSeen seen).flatMap System.storeSeen) :=
  System.flows_of_run (system_of_run run lets) passed
    (System.flows_initial rows) fun _ _ brought => brought

theorem lets_true (process : Process) (label : ProcessLabel) :
    Lets config (fun _ => True) process label := by
  cases label with
  | handle received => exact fun _ _ => trivial
  | replay body => exact fun _ _ _ _ => trivial
  | work | main | requestShutdown | dropSenders | receive | observeShutdown
    | written | tick | probed | stopLiveness => exact trivial

theorem sound_of_boot
    (run : (machine config).Run ok (boot config.serde.parse faults db) final
      seen) :
    final.system.Sound fun _ => True :=
  System.sound_of_run
    (system_of_run run fun process label _ => lets_true process label)
    (System.sound_initial _ _ _) fun _ _ brought => brought

theorem ledger_of_boot
    (run : (machine config).Run ok (boot config.serde.parse faults db) final
      seen)
    (wellFormed : db.WellFormed) :
    Ledger (System.initial (opened config.serde.parse faults db) []).store
      final.system.store ((systemSeen seen).flatMap System.storeSeen) :=
  ledger_of_run
    (System.run_store (system_of_run run fun process label _ =>
        lets_true process label)
      (System.sound_initial _ _ _) fun _ _ brought => brought)
    (rebuildMissingProjections_wellFormed faults wellFormed) rfl

end Accepted

/-! What may be asked of the events of a body.  The replay door itself asks for
their kind alone. -/

/-- Every event of the body that may be replayed is good. -/
def Replays (serde : Serde) (good : Event → Prop) (body : List UInt8) : Prop :=
  ∀ line ∈ Replay.lines body, Replay.isRecord line = true →
    ∀ event ∈ Replay.readEvent serde line,
      event.kind.isRecording = false → event.kind ≠ .unknown → good event

instance (serde : Serde) (good : Event → Prop) [DecidablePred good]
    (body : List UInt8) : Decidable (Replays serde good body) :=
  inferInstanceAs (Decidable (∀ line ∈ Replay.lines body, _ → _))

def ReplaysOnly (config : ProcessConfig) (good : Event → Prop) (_ : Process) :
    ProcessLabel → Prop
  | .replay body => Replays config.serde good body
  | _ => True

instance (config : ProcessConfig) (good : Event → Prop) [DecidablePred good]
    (process : Process) : (label : ProcessLabel) →
      Decidable (ReplaysOnly config good process label)
  | .replay body => inferInstanceAs (Decidable (Replays config.serde good body))
  | .work _ | .main | .requestShutdown | .handle _ | .dropSenders | .receive
  | .observeShutdown | .written | .tick | .probed | .stopLiveness =>
      .isTrue trivial

theorem replays_iff {serde : Serde} {good : Event → Prop}
    {body : List UInt8} :
    Replays serde good body ↔ ∀ line ∈ Replay.lines body, ∀ item,
      Replay.item? serde line = some item →
        ∃ event, Adapter.replayEnvelope serde.parse event = .ok item.envelope ∧
          Replay.readEvent serde line = some event ∧ good event := by
  constructor
  · intro replays line inside item brings
    obtain ⟨record, event, envelope, read, replayed, rfl⟩ :=
      Replay.item?_eq_some_iff.mp brings
    obtain ⟨recording, known, _⟩ :=
      (Adapter.replayEnvelope_ok serde.parse).mp replayed
    exact ⟨event, replayed, read,
      replays line inside record event read recording known⟩
  · intro items line inside record event read recording known
    obtain ⟨other, _, again, good⟩ := items line inside _
      (Replay.item?_eq_some_iff.mpr ⟨record, event, _, read,
        (Adapter.replayEnvelope_ok serde.parse).mpr ⟨recording, known, rfl⟩,
        rfl⟩)
    rw [read] at again
    cases again
    exact good

/-- What a door has put on the channel. -/
def enqueued (before after : Channel IngestItem) : List IngestItem :=
  after.items.drop before.items.length

theorem ReplaysOnly.lets {config : ProcessConfig} {good : Event → Prop}
    {lets : EventEnvelope → Prop} {process : Process} {label : ProcessLabel}
    (only : ReplaysOnly config good process label)
    (hooks : ∀ received envelope,
      judge config.serde config.toolReactions received =
        some (.ok envelope) → lets envelope)
    (replays : ∀ event envelope, good event →
      Adapter.replayEnvelope config.serde.parse event = .ok envelope →
        lets envelope) :
    Lets config lets process label := by
  cases label with
  | handle received => exact hooks received
  | replay body =>
      intro line inside item brings
      obtain ⟨event, replayed, _, good⟩ :=
        replays_iff.mp only line inside item brings
      exact replays event item.envelope good replayed
  | work | main | requestShutdown | dropSenders | receive | observeShutdown
    | written | tick | probed | stopLiveness => exact trivial

section Doors

variable {config : ProcessConfig}

/-- What the socket asks of a hook, asked of an event. -/
def Clean (event : Event) : Prop :=
  event.source ≠ daemonSentinelSource ∧ isBlank event.sessionId = false ∧
    hasNul event.payload = false

instance (event : Event) : Decidable (Clean event) :=
  inferInstanceAs (Decidable (_ ∧ _))

theorem replayEnvelope_admitted {parseValue : String → Option Json.Value}
    {event : Event} {envelope : EventEnvelope}
    (replayed : Adapter.replayEnvelope parseValue event = .ok envelope) :
    Admitted envelope ↔ Clean event := by
  obtain ⟨recording, known, rfl⟩ :=
    (Adapter.replayEnvelope_ok parseValue).mp replayed
  constructor
  · intro admitted
    exact ⟨admitted.source, admitted.session, admitted.payload⟩
  · intro clean
    exact ⟨clean.1, clean.2.1, clean.2.2, recording, known⟩

theorem replays_clean_iff {serde : Serde} {body : List UInt8} :
    Replays serde Clean body ↔ ∀ line ∈ Replay.lines body, ∀ item,
      Replay.item? serde line = some item → Admitted item.envelope := by
  rw [replays_iff]
  constructor
  · intro replays line inside item brings
    obtain ⟨event, replayed, _, clean⟩ := replays line inside item brings
    exact (replayEnvelope_admitted replayed).mpr clean
  · intro admits line inside item brings
    obtain ⟨_, event, envelope, read, replayed, rfl⟩ :=
      Replay.item?_eq_some_iff.mp brings
    exact ⟨event, replayed, read,
      (replayEnvelope_admitted replayed).mp (admits line inside _ brings)⟩

theorem handle_enqueued (channel : Channel IngestItem) (received : Received) :
    ∀ item ∈ enqueued channel
        (handle config.serde config.toolReactions channel received).1,
      judge config.serde config.toolReactions received =
        some (.ok item.envelope) := by
  intro item member
  cases handles : handle config.serde config.toolReactions channel received with
  | mk next reply =>
      rw [handles] at member
      rcases handle_cases handles with ⟨rfl, _⟩ | ⟨envelope, judged, sent, _⟩
      · simp [enqueued] at member
      · obtain ⟨_, _, _, items⟩ := Channel.trySend_ok sent
        simp only [enqueued, items, List.drop_left, List.mem_singleton]
          at member
        subst member
        exact judged

theorem judge_admitted {received : Received} {envelope : EventEnvelope}
    (judged : judge config.serde config.toolReactions received =
      some (.ok envelope)) : Admitted envelope := by
  obtain ⟨_, _, accepted⟩ := judge_ok judged
  exact vet_admitted accepted

theorem replay_enqueued (channel : Channel IngestItem) (body : List UInt8) :
    ∀ item ∈ enqueued channel (Replay.run config.serde channel body).1,
      ∃ line ∈ Replay.lines body,
        Replay.item? config.serde line = some item := by
  intro item member
  obtain ⟨sent, forwarded⟩ : ∃ sent, Replay.Forwarded _ _ _ _ _ sent :=
    Replay.run_forwarded channel body
  rw [enqueued, forwarded.items, List.drop_left] at member
  exact List.mem_filterMap.mp (forwarded.sublist.subset member)

/-- The socket admits by its rules whatever comes; the replay door does so for
the clean bodies, and for no others. -/
structure DoorsAgree (config : ProcessConfig) : Prop where
  socket : ∀ channel received,
    ∀ item ∈ enqueued channel
        (handle config.serde config.toolReactions channel received).1,
      Admitted item.envelope
  replay : ∀ body,
    (∀ channel, ∀ item ∈ enqueued channel
        (Replay.run config.serde channel body).1, Admitted item.envelope) ↔
      Replays config.serde Clean body

theorem doors_agree (config : ProcessConfig) : DoorsAgree config where
  socket channel received item member :=
    judge_admitted (handle_enqueued channel received item member)
  replay body := by
    constructor
    · intro admits
      apply replays_clean_iff.mpr
      intro line inside item brings
      let channel := Channel.empty IngestItem (Replay.lines body).length
      apply admits channel item
      have items : (Replay.run config.serde channel body).1.items = _ :=
        Replay.runLines_room 1 channel .empty (Replay.lines body) rfl
          (by simp [channel, Channel.empty])
      rw [enqueued, items, List.drop_left]
      exact List.mem_filterMap.mpr ⟨line, inside, brings⟩
    · intro clean channel item member
      obtain ⟨line, inside, brings⟩ := replay_enqueued channel body item member
      exact replays_clean_iff.mp clean line inside item brings

/-- What the store may rely on when its doors agree. -/
structure Trusted (final : Process) (seen : List ProcessSeen) : Prop where
  admitted : ∀ item ∈ accepted seen, Admitted item.envelope
  returned : ∀ event, .event event ∈ final.system.store.hub →
    ∀ since, since < event.eventId →
      ∃ response, Events.list event.sessionId since
          (some final.system.store.db) = .ok response ∧
        event ∈ response.events
  sentinel : ∀ commit ∈ commits ((systemSeen seen).flatMap System.storeSeen),
    commit.isEvent = true → ∀ key, key.isSentinel = true →
      commit.after.projection key = commit.before.projection key

def User (envelope : EventEnvelope) : Prop :=
  envelope.source ≠ daemonSentinelSource

theorem user_passedOn : PassedOn User fun _ => True where
  ends := by
    intro pins envelope precondition row user _ ended
    obtain ⟨_, key, _⟩ := ended
    have source : envelope.source = row.source := congrArg (·.source) key
    rw [User, source]
    exact user
  writes := fun _ _ => trivial
  marks := trivial

/-- Of every run whose replayed bodies are all clean. -/
theorem front_doors_agree {faults : FaultPlan} {db : Db} {final : Process}
    {seen : List ProcessSeen} (wellFormed : db.WellFormed)
    (run : (machine config).Run (ReplaysOnly config Clean)
      (boot config.serde.parse faults db) final seen) :
    DoorsAgree config ∧ Trusted final seen := by
  have lets : ∀ process label, ReplaysOnly config Clean process label →
      Lets config Admitted process label := by
    intro process label clean
    apply clean.lets fun _ _ => judge_admitted
    intro event envelope clean replayed
    exact (replayEnvelope_admitted replayed).mpr clean
  have flows := flows_of_lets run
    (fun process label clean => (lets process label clean).mono
      fun _ admitted => admitted.source)
    user_passedOn fun _ _ => trivial
  have ledger := ledger_of_boot run wellFormed
  refine ⟨doors_agree config, ?_⟩
  exact {
    admitted := accepted_of_run run lets
    returned := by
      intro event member since later
      rw [ledger.hub] at member
      have announced := List.mem_append_left final.system.store.owed member
      obtain ⟨commit, inside, emits⟩ := ledger.announced_event announced
      obtain ⟨envelope, _, asked, rfl⟩ := Commit.event?_cases emits
      have good := flows.commits commit inside
      rw [asked] at good
      obtain ⟨listed, known⟩ :=
        Events.listed_of_published ledger announced good
      exact Events.list_returns listed known later
    sentinel := by
      intro commit inside isEvent key sentinel
      obtain ⟨envelope, precondition, asked⟩ := Commit.isEvent_cases isEvent
      have good := flows.commits commit inside
      rw [asked] at good
      obtain ⟨result, outcome⟩ := ledger.chained.outcome commit inside
      apply (commit_appends outcome).projection_ne
      rintro rfl
      rw [asked] at sentinel
      exact good (beq_iff_eq.mp sentinel) }

end Doors

/-! One hook and one replayed event, and then three events that no hook could
bring: of the daemon's own source, of a session without a name, and with a NUL
in its payload. -/

theorem front_doors_agree_drainAndExit :
    ∃ (final : Process) (seen : List ProcessSeen),
      ((accepted seen).length = 2 ∧ final.system.store.hub.length = 4) ∧
        DoorsAgree simpleProcess ∧ Trusted final seen := by
  have ⟨final, seen, run, checked⟩ := Machine.exec_check
    (by decide : (machine simpleProcess).execMeets (ReplaysOnly simpleProcess Clean)
      (boot simpleSerde.parse FaultPlan.none Db.empty)
      (startUp ++ twoAccepted ++ drainAndExit))
    (fun result : Process × List ProcessSeen =>
      decide ((accepted result.2).length = 2 ∧
        result.1.system.store.hub.length = 4))
    (by decide)
  exact ⟨final, seen, of_decide_eq_true checked,
    front_doors_agree Db.wellFormed_empty run⟩

def forgedSerde : Serde :=
  { simpleSerde with
    read := fun text => (match text with
      | "a" => some { replayedEvent with
          source := daemonSentinelSource
          sessionId := daemonSentinelSession }
      | "b" => some { replayedEvent with sessionId := "" }
      | "c" => some { replayedEvent with
          payload := String.singleton (Char.ofNat 0) }
      | _ => none).map EventJson.toJson }

def forgedProcess : ProcessConfig :=
  { simpleProcess with serde := forgedSerde, ingestChannelCapacity := 3 }

def forgedRun : List ProcessLabel :=
  startUp ++ [.replay (Utf8.encode "a\nb\nc\n"), .receive] ++ writeTask 2 2000

/-- All three are accepted, and the first of them is published, is in no history,
and rewrites the daemon's own projection. -/
theorem replay_admits_forged_events :
    ∃ (final : Process) (seen : List ProcessSeen),
      (machine forgedProcess).Run (fun _ _ => True)
        (boot forgedSerde.parse FaultPlan.none Db.empty) final seen ∧
      (accepted seen).map (fun item => decide (Admitted item.envelope)) =
        [false, false, false] ∧
      (∃ event ∈ final.system.store.hub.filterMap BroadcastEnvelope.event?,
        0 < event.eventId ∧ Events.list event.sessionId 0
          (some final.system.store.db) =
            .error (.notFound "session not found")) ∧
      ∃ commit ∈ commits ((systemSeen seen).flatMap System.storeSeen),
        commit.isEvent = true ∧ commit.after.projection sentinelKey ≠
          commit.before.projection sentinelKey := by
  have ⟨final, seen, run, checked⟩ := Machine.exec_check
    ((machine forgedProcess).execMeets_true
      (boot forgedSerde.parse FaultPlan.none Db.empty) forgedRun)
    (fun result : Process × List ProcessSeen =>
      decide ((accepted result.2).map
          (fun item => decide (Admitted item.envelope)) =
            [false, false, false] ∧
        (∃ event ∈ result.1.system.store.hub.filterMap
            BroadcastEnvelope.event?,
          0 < event.eventId ∧ Events.list event.sessionId 0
            (some result.1.system.store.db) =
              .error (.notFound "session not found")) ∧
        ∃ commit ∈ commits ((systemSeen result.2).flatMap System.storeSeen),
          commit.isEvent = true ∧ commit.after.projection sentinelKey ≠
            commit.before.projection sentinelKey))
    (by decide)
  exact ⟨final, seen, run, of_decide_eq_true checked⟩

end Process

end Bowerbird.Daemon
