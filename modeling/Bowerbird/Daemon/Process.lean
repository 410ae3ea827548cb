import Bowerbird.Api.Replay
import Bowerbird.Daemon.System
import Bowerbird.Projection.Rebuild

namespace Bowerbird.Daemon

open Protocol Foundation Projection Ingest Api

/-! One run of the daemon, from the rebuild to its exit: the main task, the ingest
channel with its two front doors, the ingest writer and the liveness probe.  Each
write or probe is a task of the writing side. -/

/-- The event ids of a run's two recording markers. -/
structure Window where
  started : Int
  ended : Int
  deriving Repr, DecidableEq

inductive MainState where
  | probing (task : Nat)
  | startingRecording (task : Nat)
  | serving (started : RecordingStarted)
  | endingRecording (started : RecordingStarted) (task : Nat)
  | exited (window : Option Window)
  deriving Repr, DecidableEq

inductive WriterState where
  | absent
  | idle
  | writing (task : Nat) (draining : Bool)
  | finished
  deriving Repr, DecidableEq

inductive LivenessState where
  | absent
  | idle
  | probing (task : Nat)
  | finished
  deriving Repr, DecidableEq

structure Process where
  system : System
  channel : Channel IngestItem
  /-- Whether anyone still holds a sender. -/
  senders : Bool
  shutdownRequested : Bool
  main : MainState
  writer : WriterState
  liveness : LivenessState

inductive ProcessLabel where
  | work (label : SystemLabel)
  | main
  | requestShutdown
  | handle (received : Received)
  | replay (body : List UInt8)
  | dropSenders
  | receive
  | observeShutdown
  | written
  | tick
  | probed
  | stopLiveness

inductive ProcessSeen where
  | system (seen : SystemSeen)
  | handled (accepted : Option IngestItem) (reply : Option Reply)
  | replayed (accepted : List IngestItem) (response : Replay.ReplayResponse)
  | handed (task : Nat) (item : IngestItem)

structure ProcessConfig where
  serde : Serde
  toolReactions : Option (List (String × String))
  ingestChannelCapacity : Nat

namespace System

def spawned (system : System) (job : Job) : System :=
  { system with
    tasks := system.tasks ++ [{ job, task := job.task, selected := none }] }

def isDone (system : System) (task : Nat) : Bool :=
  match system.tasks[task]? with
  | none => false
  | some state =>
      match state.task with
      | .done _ => true
      | .ask _ _ => false

/-- The answer that a step gives to the write that `task` waits for; inside, what
was written. -/
def settles (system : System) (task : Nat) :
    SystemLabel → Option (Option Outcome)
  | .finish =>
      match system.store.inFlight with
      | none => none
      | some flight =>
          if flight.owner = task then
            flight.result.map fun
              | .ok outcome => some outcome
              | .error _ => none
          else none
  | .refuse other _ => if other = task then some none else none
  | _ => none

end System

/-- Live hooks supersede, replayed events do not. -/
def writeItem (item : IngestItem) : Job :=
  match item.origin with
  | .live => .hook item.envelope
  | .replay => .replay item.envelope

namespace Process

/-- The start-up probe is the first task of a run. -/
def startupProbe : Nat :=
  0

/-- A failed rebuild does not keep the daemon from starting. -/
def boot (parseValue : String → Option Json.Value) (faults : FaultPlan)
    (db : Db) : Process :=
  let opened := (Tx.run faults (rebuildMissingProjections parseValue) db).2
  { system := (System.initial opened []).spawned .probe
    channel := Channel.empty IngestItem 0
    senders := false
    shutdownRequested := false
    main := .probing startupProbe
    writer := .absent
    liveness := .absent }

variable (config : ProcessConfig)

/-- The main task goes on once its marker is written, or leaves if it is not. -/
def afterWork (process : Process) (label : SystemLabel)
    (system : System) : Process :=
  match process.main with
  | .startingRecording task =>
      match process.system.settles task label with
      | none => { process with system }
      | some (some (.recordingStarted eventId recordingSessionId)) =>
          { process with
            system
            channel := Channel.empty IngestItem config.ingestChannelCapacity
            senders := true
            main := .serving { eventId, recordingSessionId }
            writer := .idle
            liveness := .idle }
      | some _ => { process with system, main := .exited none }
  | .endingRecording started task =>
      match process.system.settles task label with
      | none => { process with system }
      | some (some (.recordingEnded eventId)) =>
          { process with
            system
            main := .exited (some ⟨started.eventId, eventId⟩) }
      | some _ => { process with system, main := .exited none }
  | _ => { process with system }

/-- Hand an item to `write_item`. -/
def hand (process : Process) (item : IngestItem) (draining : Bool) :
    Process × List ProcessSeen :=
  ({ process with
      system := process.system.spawned (writeItem item)
      writer := .writing process.system.tasks.length draining },
    [.handed process.system.tasks.length item])

/-- One turn of the drain: the next item, or the end of the writer, which drops
its receiver with no await in between. -/
def drain (process : Process) : Process × List ProcessSeen :=
  match process.channel.tryRecv with
  | some (item, channel) => { process with channel }.hand item true
  | none =>
      ({ process with
          channel := process.channel.drop
          writer := .finished }, [])

def accepting (process : Process) : Bool :=
  process.senders && decide (process.writer ≠ .absent)

def exited (process : Process) : Bool :=
  match process.main with
  | .exited _ => true
  | _ => false

/-- What a step of a system label may be: no new task, and a poll of the shutdown
token that tells the truth. -/
def permits (process : Process) : SystemLabel → Bool
  | .spawn _ => false
  | .cancelled _ flag => flag == process.shutdownRequested
  | _ => true

def mainStep (process : Process) : Option (Process × List ProcessSeen) :=
  match process.main with
  | .probing task =>
      if process.system.isDone task then
        some ({ process with
          system := process.system.spawned .recordingStarted
          main := .startingRecording process.system.tasks.length }, [])
      else none
  | .serving started =>
      -- the joins of the listener, the writer and the probe
      if process.shutdownRequested ∧ process.writer = .finished ∧
          process.liveness = .finished then
        some ({ process with
          system := process.system.spawned
            (.recordingEnded started.recordingSessionId)
          main := .endingRecording started process.system.tasks.length }, [])
      else none
  | _ => none

def writerStep (process : Process) :
    ProcessLabel → Option (Process × List ProcessSeen)
  | .receive =>
      if process.writer = .idle then
        match process.channel.tryRecv with
        | some (item, channel) =>
            some ({ process with channel }.hand item false)
        | none =>
            if process.senders then none
            else
              some ({ process with
                channel := process.channel.drop
                writer := .finished }, [])
      else none
  | .observeShutdown =>
      if process.writer = .idle ∧ process.shutdownRequested then
        some process.drain
      else none
  | .written =>
      match process.writer with
      | .writing task draining =>
          if process.system.isDone task then
            if draining then some process.drain
            else some ({ process with writer := .idle }, [])
          else none
      | _ => none
  | _ => none

def livenessStep (process : Process) :
    ProcessLabel → Option (Process × List ProcessSeen)
  | .tick =>
      if process.liveness = .idle then
        some ({ process with
          system := process.system.spawned .probe
          liveness := .probing process.system.tasks.length }, [])
      else none
  | .probed =>
      match process.liveness with
      | .probing task =>
          if process.system.isDone task then
            some ({ process with liveness := .idle }, [])
          else none
      | _ => none
  | .stopLiveness =>
      if process.liveness = .idle ∧ process.shutdownRequested then
        some ({ process with liveness := .finished }, [])
      else none
  | _ => none

def step (process : Process) (label : ProcessLabel) :
    Option (Process × List ProcessSeen) :=
  if process.exited then none
  else
    match label with
    | .work label =>
        if process.permits label then
          (process.system.step label).map fun (system, seen) =>
            (process.afterWork config label system, seen.map .system)
        else none
    | .main => process.mainStep
    | .requestShutdown =>
        match process.main with
        | .serving _ => some ({ process with shutdownRequested := true }, [])
        | _ => none
    | .handle received =>
        if process.accepting then
          let (channel, reply) := handle config.serde config.toolReactions
            process.channel received
          some ({ process with channel },
            [.handled (channel.items.drop process.channel.items.length).head?
              reply])
        else none
    | .replay body =>
        if process.accepting then
          let (channel, response) := Replay.run config.serde process.channel
            body
          some ({ process with channel },
            [.replayed (channel.items.drop process.channel.items.length)
              response])
        else none
    | .dropSenders =>
        if process.accepting then some ({ process with senders := false }, [])
        else none
    | .receive | .observeShutdown | .written => process.writerStep label
    | .tick | .probed | .stopLiveness => process.livenessStep label

def machine : Machine Process ProcessLabel ProcessSeen where
  step := step config

/-- Only an answer to its own write moves the main task: into service with a new
channel, or out. -/
theorem afterWork_cases (process : Process) (label : SystemLabel)
    (system : System) :
    process.afterWork config label system = { process with system } ∨
      (∃ task eventId recordingSessionId,
        process.main = .startingRecording task ∧
        process.system.settles task label =
          some (some (.recordingStarted eventId recordingSessionId)) ∧
        process.afterWork config label system = { process with
          system
          channel := Channel.empty IngestItem config.ingestChannelCapacity
          senders := true
          main := .serving { eventId, recordingSessionId }
          writer := .idle
          liveness := .idle }) ∨
      (∃ started task eventId, process.main = .endingRecording started task ∧
        process.system.settles task label =
          some (some (.recordingEnded eventId)) ∧
        process.afterWork config label system = { process with
          system
          main := .exited (some ⟨started.eventId, eventId⟩) }) ∨
      process.afterWork config label system =
        { process with system, main := .exited none } := by
  unfold afterWork
  split
  · rename_i task phase
    split
    · exact .inl rfl
    · rename_i eventId recordingSessionId settled
      exact .inr (.inl ⟨task, eventId, recordingSessionId, phase, settled,
        rfl⟩)
    · exact .inr (.inr (.inr rfl))
  · rename_i started task phase
    split
    · exact .inl rfl
    · rename_i eventId settled
      exact .inr (.inr (.inl ⟨started, task, eventId, phase, settled, rfl⟩))
    · exact .inr (.inr (.inr rfl))
  · exact .inl rfl

/-! What a step can do, said once. -/

/-- The writer is polled at its select, or once its write is done. -/
def WriterPolled (process : Process) : Prop :=
  process.writer = .idle ∨
    ∃ task draining, process.writer = .writing task draining ∧
      process.system.isDone task = true

inductive Moves (process : Process) :
    ProcessLabel → Process → List ProcessSeen → Prop
  | worked {label : SystemLabel} {system : System} {seen : List SystemSeen}
      (permitted : process.permits label = true)
      (taken : process.system.step label = some (system, seen)) :
      Moves process (.work label) (process.afterWork config label system)
        (seen.map .system)
  | opens {task : Nat} (phase : process.main = .probing task)
      (done : process.system.isDone task = true) :
      Moves process .main
        { process with
          system := process.system.spawned .recordingStarted
          main := .startingRecording process.system.tasks.length } []
  | closes {started : RecordingStarted}
      (phase : process.main = .serving started)
      (writer : process.writer = .finished)
      (liveness : process.liveness = .finished) :
      Moves process .main
        { process with
          system := process.system.spawned
            (.recordingEnded started.recordingSessionId)
          main := .endingRecording started process.system.tasks.length } []
  | flagged {label : ProcessLabel} {senders shutdownRequested : Bool} :
      Moves process label { process with senders, shutdownRequested } []
  | handled {received : Received} {channel : Channel IngestItem}
      {reply : Option Reply} (accepting : process.accepting = true)
      (handles : handle config.serde config.toolReactions process.channel
        received = (channel, reply)) :
      Moves process (.handle received) { process with channel }
        [.handled (channel.items.drop process.channel.items.length).head? reply]
  | replayed {body : List UInt8} {channel : Channel IngestItem}
      {response : Replay.ReplayResponse}
      (accepting : process.accepting = true)
      (runs : Replay.run config.serde process.channel body =
        (channel, response)) :
      Moves process (.replay body) { process with channel }
        [.replayed (channel.items.drop process.channel.items.length) response]
  | handed {label : ProcessLabel} {item : IngestItem}
      {channel : Channel IngestItem} {draining : Bool}
      (polled : process.WriterPolled)
      (received : process.channel.tryRecv = some (item, channel)) :
      Moves process label
        { process with
          channel
          system := process.system.spawned (writeItem item)
          writer := .writing process.system.tasks.length draining }
        [.handed process.system.tasks.length item]
  | drained {label : ProcessLabel} (polled : process.WriterPolled)
      (empty : process.channel.tryRecv = none) :
      Moves process label
        { process with
          channel := process.channel.drop
          writer := .finished } []
  | rested {task : Nat} (phase : process.writer = .writing task false)
      (done : process.system.isDone task = true) :
      Moves process .written { process with writer := .idle } []
  | ticked (phase : process.liveness = .idle) :
      Moves process .tick
        { process with
          system := process.system.spawned .probe
          liveness := .probing process.system.tasks.length } []
  | slept {task : Nat} (phase : process.liveness = .probing task)
      (done : process.system.isDone task = true) :
      Moves process .probed { process with liveness := .idle } []
  | stopped (phase : process.liveness = .idle) :
      Moves process .stopLiveness { process with liveness := .finished } []

section Moves

variable {config} {process next : Process} {label : ProcessLabel}
variable {out : List ProcessSeen}

theorem drain_moves (polled : process.WriterPolled)
    (drains : process.drain = (next, out)) :
    Moves config process label next out := by
  unfold drain at drains
  split at drains
  · rename_i item channel received
    cases drains
    exact .handed polled received
  · rename_i empty
    cases drains
    exact .drained polled empty

theorem mainStep_moves (taken : process.mainStep = some (next, out)) :
    Moves config process .main next out := by
  unfold mainStep at taken
  split at taken
  · rename_i task phase
    split at taken
    · rename_i done
      cases taken
      exact .opens phase done
    · cases taken
  · rename_i started phase
    split at taken
    · rename_i joined
      cases taken
      exact .closes phase joined.2.1 joined.2.2
    · cases taken
  · cases taken

theorem writerStep_moves (taken : process.writerStep label = some (next, out)) :
    Moves config process label next out := by
  unfold writerStep at taken
  split at taken
  · split at taken
    · rename_i idle
      split at taken
      · rename_i item channel received
        cases taken
        exact .handed (.inl idle) received
      · rename_i empty
        split at taken
        · cases taken
        · cases taken
          exact .drained (.inl idle) empty
    · cases taken
  · split at taken
    · rename_i idle
      exact drain_moves (.inl idle.1) (Option.some.inj taken)
    · cases taken
  · split at taken
    · rename_i task draining phase
      split at taken
      · rename_i done
        split at taken
        · exact drain_moves (.inr ⟨task, draining, phase, done⟩)
            (Option.some.inj taken)
        · rename_i resting
          cases taken
          rw [Bool.not_eq_true] at resting
          subst resting
          exact .rested phase done
      · cases taken
    · cases taken
  · cases taken

theorem livenessStep_moves
    (taken : process.livenessStep label = some (next, out)) :
    Moves config process label next out := by
  unfold livenessStep at taken
  split at taken
  · split at taken
    · rename_i idle
      cases taken
      exact .ticked idle
    · cases taken
  · split at taken
    · rename_i task phase
      split at taken
      · rename_i done
        cases taken
        exact .slept phase done
      · cases taken
    · cases taken
  · split at taken
    · rename_i idle
      cases taken
      exact .stopped idle.1
    · cases taken
  · cases taken

theorem step_moves (taken : process.step config label = some (next, out)) :
    process.exited = false ∧ Moves config process label next out := by
  unfold step at taken
  split at taken
  · cases taken
  · rename_i running
    refine ⟨by simpa using running, ?_⟩
    cases label with
    | work label =>
        simp only at taken
        split at taken
        · rename_i permitted
          obtain ⟨⟨system, seen⟩, stepped, same⟩ :=
            Option.map_eq_some_iff.mp taken
          cases same
          exact .worked permitted stepped
        · cases taken
    | main => exact mainStep_moves taken
    | requestShutdown =>
        simp only at taken
        split at taken
        · cases taken
          exact .flagged
        · cases taken
    | handle received =>
        simp only at taken
        split at taken
        · rename_i accepting
          cases taken
          exact .handled accepting rfl
        · cases taken
    | replay body =>
        simp only at taken
        split at taken
        · rename_i accepting
          cases taken
          exact .replayed accepting rfl
        · cases taken
    | dropSenders =>
        simp only at taken
        split at taken
        · cases taken
          exact .flagged
        · cases taken
    | receive => exact writerStep_moves taken
    | observeShutdown => exact writerStep_moves taken
    | written => exact writerStep_moves taken
    | tick => exact livenessStep_moves taken
    | probed => exact livenessStep_moves taken
    | stopLiveness => exact livenessStep_moves taken

end Moves

end Process

/-- The databases that any number of runs lead to, one on the other and each cut
off anywhere. -/
inductive Reached (ok : ProcessConfig → Process → ProcessLabel → Prop) :
    Db → Prop
  | empty : Reached ok Db.empty
  | run {config : ProcessConfig} {faults : FaultPlan} {db : Db}
      {final : Process} {seen : List ProcessSeen} (before : Reached ok db)
      (ran : (Process.machine config).Run (ok config)
        (Process.boot config.serde.parse faults db) final seen) :
      Reached ok final.system.store.db

end Bowerbird.Daemon
