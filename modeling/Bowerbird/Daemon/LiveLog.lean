import Bowerbird.Daemon.History
import Bowerbird.Daemon.LogFold

namespace Bowerbird.Daemon

open Protocol Foundation Projection Ingest Api Adapter

/-! What runs that are sent no replayed event leave behind. -/

/-- No event is replayed, and the JSON library is the same in every run. -/
def Recorded (serde : Serde) (config : ProcessConfig) (_ : Process) :
    ProcessLabel → Prop
  | .replay _ => False
  | _ => config.serde = serde

theorem Recorded.serde {serde : Serde} {config : ProcessConfig}
    {process : Process} {label : ProcessLabel}
    (recorded : Recorded serde config process label) : config.serde = serde := by
  cases label with
  | replay body => cases recorded
  | work | main | requestShutdown | handle | dropSenders | receive
    | observeShutdown | written | tick | probed | stopLiveness => exact recorded

/-- Of a hook or the end of a session that one has begun. -/
def Hooked (envelope : EventEnvelope) : Prop :=
  envelope.source = source ∧ envelope.kind.isRecording = false ∧
    envelope.kind ≠ .unknown

/-- A row of the daemon's own, or of the adapter's. -/
def Claimed (row : Db.ProjectionRow) : Prop :=
  row.source ≠ "__daemon__" → row.source = source

theorem hooked_passedOn : PassedOn Hooked Claimed where
  ends := by
    rintro pins envelope precondition row user claimed ⟨kind, key, _⟩
    have own : envelope.source = row.source := congrArg (·.source) key
    refine ⟨own.trans (claimed user), ?_, ?_⟩
    · rw [kind]
      rfl
    · rw [kind]
      exact nofun
  writes := fun hooked _ _ => hooked.1
  marks := fun user => absurd rfl user

namespace Process

variable {config : ProcessConfig} {ok : Process → ProcessLabel → Prop}
variable {final : Process} {faults : FaultPlan} {db : Db}
variable {seen : List ProcessSeen} {parseValue : String → Option Json.Value}

/-- Whatever the doors let in is typed. -/
theorem lets_typed (process : Process) (label : ProcessLabel) :
    Lets config (Typed config.serde.parse) process label := by
  cases label with
  | handle received =>
      intro envelope judged
      obtain ⟨_, _, accepted⟩ := judge_ok judged
      obtain ⟨_, _, _, _, _, normalized, _⟩ := vet_ok accepted
      exact (normalize_ok config.serde.parse normalized).2.2.2
  | replay body =>
      intro line _ item brings
      obtain ⟨_, event, envelope, _, replayed, rfl⟩ :=
        Replay.item?_eq_some_iff.mp brings
      exact replayEnvelope_typed config.serde.parse replayed
  | work | main | requestShutdown | dropSenders | receive | observeShutdown
    | written | tick | probed | stopLiveness => exact trivial

theorem Recorded.lets {serde : Serde} {process : Process} {label : ProcessLabel}
    (recorded : Recorded serde config process label) :
    Lets config Hooked process label := by
  cases label with
  | handle received =>
      intro envelope judged
      obtain ⟨_, _, accepted⟩ := judge_ok judged
      obtain ⟨_, _, _, _, _, normalized, _⟩ := vet_ok accepted
      obtain ⟨kind, own, _⟩ := normalize_ok config.serde.parse normalized
      obtain ⟨ordinary, known, _⟩ := hookEventKind_ok kind
      exact ⟨own, ordinary, known⟩
  | replay body => cases recorded
  | work | main | requestShutdown | dropSenders | receive | observeShutdown
    | written | tick | probed | stopLiveness => exact trivial

/-- On projections that are the folds of the log, the rebuild finds nothing to
do. -/
theorem opened_of_folds (folds : FoldsLog parseValue db)
    (other : String → Option Json.Value) (faults : FaultPlan) :
    opened other faults db = db := by
  rcases opened_cases other faults db with same | rebuilt
  · exact same
  · rw [rebuilt, rebuiltSessions_present]
    intro key listed
    obtain ⟨user, sourced⟩ := mem_selectDistinctSessionsFromEvents.mp listed
    rw [Db.selectSessionProjectionState, Option.isSome_map]
    exact (folds.present key user).mpr sourced

/-- A run keeps the projections in step with the log. -/
theorem folds_of_run
    (run : (machine config).Run ok (boot config.serde.parse faults db) final
      seen)
    (folds : FoldsLog config.serde.parse db) :
    FoldsLog config.serde.parse final.system.store.db := by
  have stored := System.run_store
    (system_of_run run fun process label _ => lets_typed process label)
    (System.sound_initial _ _ _) fun _ _ brought => brought
  have opens : FoldsLog config.serde.parse
      (opened config.serde.parse faults db) := by
    rw [opened_of_folds folds]
    exact folds
  exact (storeFolds_of_run stored opens rfl).folds

end Process

/-- The log of hooks and of the ends that supersession and probe have added. -/
structure LiveLog (parseValue : String → Option Json.Value) (db : Db) :
    Prop where
  folds : FoldsLog parseValue db
  claimed : ∀ row ∈ db.projections, Claimed row
  events : ∀ row ∈ db.events, row.source ≠ "__daemon__" →
    ∃ event, row = eventRow event ∧ event.source = source ∧
      event.kind.isRecording = false ∧ event.kind ≠ .unknown

theorem liveLog_empty (parseValue : String → Option Json.Value) :
    LiveLog parseValue Db.empty where
  folds := foldsLog_empty parseValue
  claimed := by
    intro row member
    cases member
  events := by
    intro row member
    cases member

theorem hooked_row {commit : Commit Nat}
    (hooked : GoodRequest Hooked commit.request)
    (user : commit.row.source ≠ "__daemon__") :
    ∃ event, commit.row = eventRow event ∧ event.source = source ∧
      event.kind.isRecording = false ∧ event.kind ≠ .unknown := by
  obtain ⟨event, emits⟩ := emits_of_user user
  refine ⟨event, Commit.row_event emits, ?_⟩
  obtain ⟨envelope, precondition, asked, rfl⟩ := Commit.event?_cases emits
  rw [asked] at hooked
  exact hooked

theorem Reached.liveLog {serde : Serde} {db : Db}
    (reached : Reached (Recorded serde) db) : LiveLog serde.parse db := by
  induction reached with
  | empty => exact liveLog_empty serde.parse
  | @run config faults db final seen before ran live =>
      have opened : Process.opened config.serde.parse faults db = db :=
        Process.opened_of_folds live.folds _ faults
      have flows := Process.flows_of_lets ran
        (fun _ _ recorded => Process.Recorded.lets recorded) hooked_passedOn
        (by rw [opened]; exact live.claimed)
      have ledger := Process.ledger_of_boot ran before.wellFormed
      refine ⟨?_, flows.rows, ?_⟩
      · rcases ran.still_or (fun _ _ recorded => recorded.serde) with
          ⟨rfl, _⟩ | same
        · have still : (Process.boot config.serde.parse faults
              db).system.store.db = db := opened
          rw [still]
          exact live.folds
        · have folds := Process.folds_of_run ran (by rw [same]; exact live.folds)
          rwa [same] at folds
      · intro row member user
        rw [ledger.chained.events, List.mem_append] at member
        rcases member with member | member
        · have old : row ∈ db.events := opened ▸ member
          exact live.events row old user
        · obtain ⟨commit, inside, rfl⟩ := List.mem_map.mp member
          exact hooked_row (flows.commits commit inside) user

end Bowerbird.Daemon
