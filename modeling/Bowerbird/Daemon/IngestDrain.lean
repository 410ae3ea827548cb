import Bowerbird.Daemon.Process

namespace Bowerbird.Daemon

open Protocol Foundation Projection Ingest Api

/-! From the front doors to the store: whatever a sender was told is on its way is
handed to the store, once and in order, however the shutdown falls. -/

namespace ProcessSeen

/-- The items whose send succeeded. -/
def accepted : ProcessSeen → List IngestItem
  | .handled item _ => item.toList
  | .replayed items _ => items
  | .system _ | .handed _ _ => []

def handed? : ProcessSeen → Option IngestItem
  | .handed _ item => some item
  | .system _ | .handled _ _ | .replayed _ _ => none

def system? : ProcessSeen → Option SystemSeen
  | .system seen => some seen
  | .handled _ _ | .replayed _ _ | .handed _ _ => none

/-- The sender is told of what was accepted, and of nothing else. -/
def Acknowledged : ProcessSeen → Prop
  | .handled item reply => item.isSome = true ↔ reply = some .accepted
  | .replayed items response => response.replayedCount = items.length
  | .system _ | .handed _ _ => True

end ProcessSeen

def accepted (seen : List ProcessSeen) : List IngestItem :=
  seen.flatMap ProcessSeen.accepted

def handed (seen : List ProcessSeen) : List IngestItem :=
  seen.filterMap ProcessSeen.handed?

def systemSeen (seen : List ProcessSeen) : List SystemSeen :=
  seen.filterMap ProcessSeen.system?

section Seen

variable (seen later : List ProcessSeen)

@[simp] theorem accepted_append :
    accepted (seen ++ later) = accepted seen ++ accepted later := by
  simp [accepted]

@[simp] theorem handed_append :
    handed (seen ++ later) = handed seen ++ handed later := by
  simp [handed]

@[simp] theorem systemSeen_append :
    systemSeen (seen ++ later) = systemSeen seen ++ systemSeen later := by
  simp [systemSeen]

@[simp] theorem accepted_nil : accepted [] = [] :=
  rfl

@[simp] theorem handed_nil : handed [] = [] :=
  rfl

@[simp] theorem systemSeen_nil : systemSeen [] = [] :=
  rfl

@[simp] theorem accepted_system (out : List SystemSeen) :
    accepted (out.map .system) = [] := by
  induction out with
  | nil => rfl
  | cons head rest induction => exact induction

@[simp] theorem handed_system (out : List SystemSeen) :
    handed (out.map .system) = [] := by
  simp [handed, ProcessSeen.handed?]

@[simp] theorem systemSeen_system (out : List SystemSeen) :
    systemSeen (out.map .system) = out := by
  simp [systemSeen, ProcessSeen.system?, Function.comp_def]

end Seen

namespace Process

/-- Every accepted item has been handed on or still waits, in order; and nothing
waits behind a writer that has finished. -/
structure Draining (process : Process) (seen : List ProcessSeen) : Prop where
  fifo : handed seen ++ process.channel.items = accepted seen
  unready : process.writer = .absent → accepted seen = []
  starting : (∃ task, process.main = .probing task ∨
      process.main = .startingRecording task) → process.writer = .absent
  finished : process.writer = .finished →
    process.channel.closed = true ∧ process.channel.items = []
  acknowledged : ∀ report ∈ seen, report.Acknowledged

variable {config : ProcessConfig} {process next : Process}
variable {label : ProcessLabel} {seen out : List ProcessSeen}

theorem WriterPolled.present (polled : process.WriterPolled) :
    process.writer ≠ .absent ∧ process.writer ≠ .finished := by
  rcases polled with idle | ⟨task, draining, writing, _⟩
  · rw [idle]
    exact ⟨nofun, nofun⟩
  · rw [writing]
    exact ⟨nofun, nofun⟩

/-- A step that sends, hands on and answers nothing. -/
theorem Draining.aside (draining : process.Draining seen)
    (channel : next.channel = process.channel)
    (writer : next.writer = process.writer)
    (main : (∃ task, next.main = .probing task ∨
      next.main = .startingRecording task) → process.writer = .absent)
    (silent : ∃ system : List SystemSeen, out = system.map .system) :
    next.Draining (seen ++ out) := by
  obtain ⟨system, rfl⟩ := silent
  exact {
    fifo := by simpa [channel] using draining.fifo
    unready := by simpa [writer] using draining.unready
    starting := fun phase => writer.trans (main phase)
    finished := by
      rw [channel, writer]
      exact draining.finished
    acknowledged := by
      intro report member
      rcases List.mem_append.mp member with member | member
      · exact draining.acknowledged report member
      · obtain ⟨inner, _, rfl⟩ := List.mem_map.mp member
        exact trivial }

/-- A sender's turn: the items that it sent stand last. -/
theorem Draining.sent (draining : process.Draining seen)
    {channel : Channel IngestItem} {report : ProcessSeen}
    (sent : List IngestItem) (accepting : process.accepting = true)
    (items : channel.items = process.channel.items ++ sent)
    (closed : channel.closed = process.channel.closed)
    (opened : sent ≠ [] → process.channel.closed = false)
    (reports : report.accepted = sent) (silent : report.handed? = none)
    (acknowledged : report.Acknowledged) :
    ({ process with channel } : Process).Draining (seen ++ [report]) where
  fifo := by
    have fifo := draining.fifo
    simp [handed, accepted, silent, reports] at fifo ⊢
    rw [items, ← fifo, List.append_assoc]
  unready := by
    intro absent
    simp only [Process.accepting, Bool.and_eq_true,
      decide_eq_true_eq] at accepting
    exact absurd absent accepting.2
  starting := draining.starting
  finished := by
    intro finished
    obtain ⟨isClosed, empty⟩ := draining.finished finished
    refine ⟨closed.trans isClosed, ?_⟩
    have nothing : sent = [] := by
      by_contra some
      rw [opened some] at isClosed
      cases isClosed
    rw [items, empty, nothing]
    rfl
  acknowledged := by
    intro other member
    rcases List.mem_append.mp member with member | member
    · exact draining.acknowledged other member
    · rw [List.mem_singleton] at member
      exact member ▸ acknowledged

theorem Draining.step (draining : process.Draining seen)
    (moves : Moves config process label next out) :
    next.Draining (seen ++ out) := by
  cases moves with
  | @worked label system inner permitted taken =>
      rcases afterWork_cases config process label system with
        same | ⟨task, eventId, recordingSessionId, phase, _, same⟩ |
          ⟨started, task, eventId, phase, _, same⟩ | same
      · rw [same]
        exact draining.aside rfl rfl draining.starting ⟨inner, rfl⟩
      · -- nothing was sent before there was a channel
        have absent := draining.starting ⟨task, .inr phase⟩
        have none := draining.unready absent
        have before := draining.fifo
        rw [none, List.append_eq_nil_iff] at before
        rw [same]
        exact {
          fifo := by simp [none, before.1, Channel.empty]
          unready := by intro absent; cases absent
          starting := by rintro ⟨_, phase | phase⟩ <;> cases phase
          finished := by intro ended; cases ended
          acknowledged := by
            intro report member
            rcases List.mem_append.mp member with member | member
            · exact draining.acknowledged report member
            · obtain ⟨seen, _, rfl⟩ := List.mem_map.mp member
              exact trivial }
      · rw [same]
        refine draining.aside rfl rfl ?_ ⟨inner, rfl⟩
        rintro ⟨_, phase | phase⟩ <;> cases phase
      · rw [same]
        refine draining.aside rfl rfl ?_ ⟨inner, rfl⟩
        rintro ⟨_, phase | phase⟩ <;> cases phase
  | opens phase _ =>
      exact draining.aside rfl rfl
        (fun _ => draining.starting ⟨_, .inl phase⟩) ⟨[], rfl⟩
  | closes =>
      refine draining.aside rfl rfl ?_ ⟨[], rfl⟩
      rintro ⟨_, phase | phase⟩ <;> cases phase
  | flagged => exact draining.aside rfl rfl draining.starting ⟨[], rfl⟩
  | @handled received channel reply accepting handles =>
      rcases handle_cases handles with ⟨rfl, told⟩ |
        ⟨envelope, _, sent, told⟩
      · refine draining.sent [] accepting (by simp) rfl (by simp) ?_ rfl ?_
        · simp [ProcessSeen.accepted]
        · simpa [ProcessSeen.Acknowledged] using told
      · obtain ⟨opened, unclosed, _, items⟩ := Channel.trySend_ok sent
        refine draining.sent [{ envelope, origin := .live }] accepting items
          (unclosed.trans opened.symm) (fun _ => opened) ?_ rfl ?_
        · simp [ProcessSeen.accepted, items]
        · simp [ProcessSeen.Acknowledged, items, told]
  | @replayed body channel response accepting runs =>
      obtain ⟨sent, forwarded⟩ : ∃ sent, Replay.Forwarded _ _ _ _ _ sent :=
        Replay.run_forwarded process.channel body
      rw [runs] at forwarded
      have items : channel.items = process.channel.items ++ sent :=
        forwarded.items
      have count : response.replayedCount = 0 + sent.length := forwarded.count
      refine draining.sent sent accepting items forwarded.closed
        forwarded.opened ?_ rfl ?_
      · simp [ProcessSeen.accepted, items]
      · simpa [ProcessSeen.Acknowledged, items] using count
  | @handed label item channel isDraining polled received =>
      obtain ⟨items, closed, _⟩ := Channel.tryRecv_some received
      exact {
        fifo := by
          have fifo := draining.fifo
          rw [items] at fifo
          simpa [Daemon.handed, Daemon.accepted, ProcessSeen.handed?,
            ProcessSeen.accepted] using fifo
        unready := by intro absent; cases absent
        starting := fun phase =>
          absurd (draining.starting phase) polled.present.1
        finished := by intro ended; cases ended
        acknowledged := by
          intro report member
          rcases List.mem_append.mp member with member | member
          · exact draining.acknowledged report member
          · rw [List.mem_singleton] at member
            exact member ▸ trivial }
  | drained polled empty =>
      have nothing := Channel.tryRecv_none.mp empty
      have fifo := draining.fifo
      rw [nothing] at fifo
      exact {
        fifo := by simpa [Channel.drop] using fifo
        unready := by intro absent; cases absent
        starting := fun phase =>
          absurd (draining.starting phase) polled.present.1
        finished := fun _ => ⟨rfl, rfl⟩
        acknowledged := by simpa using draining.acknowledged }
  | rested phase _ =>
      exact {
        fifo := by simpa using draining.fifo
        unready := by intro absent; cases absent
        starting := by
          intro starting
          have absent := draining.starting starting
          rw [phase] at absent
          cases absent
        finished := by intro ended; cases ended
        acknowledged := by simpa using draining.acknowledged }
  | ticked => exact draining.aside rfl rfl draining.starting ⟨[], rfl⟩
  | slept => exact draining.aside rfl rfl draining.starting ⟨[], rfl⟩
  | stopped => exact draining.aside rfl rfl draining.starting ⟨[], rfl⟩

theorem draining_absent (absent : process.writer = .absent)
    (empty : process.channel.items = []) : process.Draining [] where
  fifo := empty
  unready := fun _ => rfl
  starting := fun _ => absent
  finished := by
    intro finished
    rw [absent] at finished
    cases finished
  acknowledged := by simp

theorem draining_of_run {ok : Process → ProcessLabel → Prop}
    {start final : Process}
    (run : (machine config).Run ok start final seen)
    (initially : start.Draining []) : final.Draining seen := by
  refine run.invariant Draining initially ?_
  intro middle next before out label _ draining _ taken
  exact draining.step (step_moves taken).2

/-- Of every run: what was accepted is handed on exactly once and in order, but
for what still waits; behind a finished writer nothing waits and nothing more is
taken; and senders are told the truth. -/
theorem no_accepted_event_lost {ok : Process → ProcessLabel → Prop}
    {faults : FaultPlan} {db : Db} {final : Process}
    (run : (machine config).Run ok (boot config.serde.parse faults db) final
      seen) :
    handed seen ++ final.channel.items = accepted seen ∧
      (final.writer = .finished →
        handed seen = accepted seen ∧
          ∀ item, final.channel.trySend item = .error .closed) ∧
      ∀ report ∈ seen, report.Acknowledged := by
  have draining := draining_of_run run (draining_absent rfl rfl)
  refine ⟨draining.fifo, ?_, draining.acknowledged⟩
  intro finished
  obtain ⟨closed, empty⟩ := draining.finished finished
  have fifo := draining.fifo
  rw [empty, List.append_nil] at fifo
  exact ⟨fifo, fun item => Channel.trySend_closed closed⟩

/-! One hook and one replayed event, accepted before a shutdown and written after
it. -/

/-- The line of a `Stop` hook of session `a`. -/
def stopLine : String :=
  "\x7b\"hook_kind\":\"Stop\",\"session_id\":\"a\"\x7d"

def replayedEvent : Event :=
  { eventId := 7
    source := Adapter.source
    sessionId := "b"
    kind := .stop
    reaction := none
    payload := emptyPayload
    createdAt := 1
    pid := none
    cwd := none }

def simpleSerde : Serde where
  parse text :=
    if text = stopLine then
      some (.object [("hook_kind", .string "Stop"),
        ("session_id", .string "a")])
    else none
  read text :=
    if text = "b" then some (EventJson.toJson replayedEvent) else none
  parseError _ := "expected value"
  eventError _ := "expected value"
  utf8Error _ := "invalid utf-8"

def simpleProcess : ProcessConfig :=
  { serde := simpleSerde
    toolReactions := none
    ingestChannelCapacity := 2 }

def writeTask (task : Nat) (nowMs : Int) : List ProcessLabel :=
  [.work (.begin task nowMs), .work (.transact FaultPlan.none),
    .work .finish]

/-- The start of a daemon whose probe finds nothing to end. -/
def startUp : List ProcessLabel :=
  [.work (.select 0), .work (.clock 0 (.ok 1000)), .main] ++ writeTask 1 1001

def twoAccepted : List ProcessLabel :=
  [.handle ⟨Utf8.encode (stopLine ++ "\n"), false⟩,
    .replay (Utf8.encode "b\n")]

def drainAndExit : List ProcessLabel :=
  [.requestShutdown, .observeShutdown] ++ writeTask 2 2000 ++ [.written] ++
    writeTask 3 2001 ++ [.written, .stopLiveness, .main] ++ writeTask 4 3000

theorem no_accepted_event_lost_drainAndExit :
    ∃ (final : Process) (seen : List ProcessSeen),
      (final.writer = .finished ∧ (accepted seen).length = 2) ∧
        handed seen ++ final.channel.items = accepted seen ∧
        (final.writer = .finished →
          handed seen = accepted seen ∧
            ∀ item, final.channel.trySend item = .error .closed) ∧
        ∀ report ∈ seen, report.Acknowledged := by
  have ⟨final, seen, run, checked⟩ := Machine.exec_check
    ((machine simpleProcess).execMeets_true
      (boot simpleSerde.parse FaultPlan.none Db.empty)
      (startUp ++ twoAccepted ++ drainAndExit))
    (fun result : Process × List ProcessSeen =>
      decide (result.1.writer = .finished ∧ (accepted result.2).length = 2))
    (by decide)
  exact ⟨final, seen, of_decide_eq_true checked, no_accepted_event_lost run⟩

end Process

end Bowerbird.Daemon
