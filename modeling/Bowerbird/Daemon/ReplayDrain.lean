import Bowerbird.Daemon.LiveLog
import Bowerbird.Daemon.Markers

namespace Bowerbird.Daemon

open Protocol Foundation Projection Ingest Api

/-! A run that is only sent events to replay, on an empty database, and whose
writes do not fail: what it commits is what it was handed. -/

/-- The envelope that a commit has written. -/
def envelope? (commit : Commit Nat) : Option EventEnvelope :=
  match commit.request with
  | .event envelope _ => some envelope
  | .recordingStarted | .recordingEnded _ => none

def envelopes (committed : List (Commit Nat)) : List EventEnvelope :=
  committed.filterMap envelope?

@[simp] theorem envelopes_append (first second : List (Commit Nat)) :
    envelopes (first ++ second) = envelopes first ++ envelopes second :=
  List.filterMap_append

namespace System

/-- Waiting to write one envelope, and done once that is answered. -/
def Writes (system : System) (task : Nat) (envelope : EventEnvelope) : Prop :=
  ∃ state resume, system.tasks[task]? = some state ∧
    state.task = .ask (.writeInner envelope none) resume ∧
    ∀ answer, resume answer = .done none

/-- An event without a condition is always committed. -/
def Smooth (system : System) : Prop :=
  ∀ flight envelope result, system.store.inFlight = some flight →
    flight.request = .event envelope none → flight.result = some result →
      committing result = true

/-- The step does not fail where it reaches the database. -/
def Unfailing : SystemLabel → Prop
  | .transact faults => faults = FaultPlan.none
  | .refuse _ _ => False
  | _ => True

section Writes

variable {system next : System} {task : Nat} {envelope : EventEnvelope}
variable {label : SystemLabel} {out : List SystemSeen}
variable {primary : EventEnvelope → Prop}

theorem Writes.single (writes : system.Writes task envelope) :
    system.Single task := by
  obtain ⟨state, resume, found, waiting, once⟩ := writes
  exact ⟨state, _, resume, found, waiting, rfl, once⟩

theorem Writes.waiting (writes : system.Writes task envelope) :
    system.isDone task = false := by
  obtain ⟨state, resume, found, waiting, _⟩ := writes
  simp [isDone, found, waiting]

theorem Single.waiting (single : system.Single task) :
    system.isDone task = false := by
  obtain ⟨state, op, resume, found, waiting, _⟩ := single
  simp [isDone, found, waiting]

theorem Writes.step (writes : system.Writes task envelope)
    (taken : system.step label = some (next, out)) :
    (system.settles task label = none ∧ next.Writes task envelope) ∨
      ((system.settles task label).isSome = true ∧
        next.isDone task = true) := by
  rcases writes.single.step taken with ⟨unsettled, single⟩ | settled
  · refine .inl ⟨unsettled, ?_⟩
    obtain ⟨state, resume, found, waiting, once⟩ := writes
    have inside := (List.getElem?_eq_some_iff.mp found).1
    rcases step_tasks taken with ⟨job, _, rfl⟩ | same |
      ⟨other, respond, middle, replied, same⟩
    · refine ⟨state, resume, ?_, waiting, once⟩
      exact (List.getElem?_append_left inside).trans found
    · exact ⟨state, resume, by rw [same]; exact found, waiting, once⟩
    · obtain ⟨asking, op, resume', answer, here, asks, _, rfl⟩ :=
        reply_cases replied
      refine ⟨state, resume, ?_, waiting, once⟩
      have apart : other ≠ task := by
        rintro rfl
        have unfinished := single.waiting
        rw [found] at here
        cases here
        rw [waiting] at asks
        cases asks
        rw [isDone, same, List.getElem?_set_self inside] at unfinished
        simp [once] at unfinished
      rw [same, List.getElem?_set_ne apart]
      exact found
  · exact .inr settled

/-- The write in flight for the task is its one write. -/
theorem Writes.flight (writes : system.Writes task envelope)
    (sound : system.Sound primary) {flight : InFlight Nat}
    (busy : system.store.inFlight = some flight) (own : flight.owner = task) :
    flight.request = .event envelope none := by
  obtain ⟨state, resume, found, waiting, _⟩ := writes
  have asks := sound.flight flight busy
  rw [own] at asks
  simp only [request?, found, waiting] at asks
  exact (Option.some.inj asks).symm

theorem smooth_of_store (smooth : system.Smooth)
    (same : next.store = system.store) : next.Smooth := by
  rw [Smooth, same]
  exact smooth

theorem Smooth.step (smooth : system.Smooth) (unfailing : Unfailing label)
    (taken : system.step label = some (next, out)) : next.Smooth := by
  have aside {other : Nat} {respond : (op : Op) → Option op.Answer}
      (replied : system.reply other respond = some next) : next.Smooth := by
    obtain ⟨_, _, _, _, _, _, _, rfl⟩ := reply_cases replied
    exact smooth
  cases label with
  | spawn job =>
      cases taken
      exact smooth
  | begin task nowMs =>
      obtain ⟨_, _, _, begun, rfl, _⟩ := begin_cases taken
      obtain ⟨_, _, _, rfl⟩ := Store.begin_cases begun
      rintro _ envelope result ⟨rfl⟩ _ settled
      cases settled
  | transact faults =>
      cases unfailing
      obtain ⟨store, out, transacted, rfl, rfl⟩ := lift_cases taken
      obtain ⟨flight, busy, holding, _⟩ := Store.transact_cases transacted
      rw [Store.transact_none busy holding] at transacted
      cases transacted
      rintro _ envelope result ⟨rfl⟩ asked settled
      obtain ⟨written, db, outcome⟩ := WriteRequest.outcome_unconditional
        envelope flight.nowMs system.store.db
      have request : flight.request = .event envelope none := asked
      cases settled
      rw [request, outcome]
      rfl
  | finish =>
      obtain ⟨_, _, _, _, _, _, _, _, finished, rfl, _⟩ := finish_cases taken
      obtain ⟨_, _, _, _, _, rfl⟩ := Store.finish_cases finished
      rintro _ _ _ ⟨⟩
  | select task => exact aside (select_cases taken).2.1
  | refuse task error => cases unfailing
  | clock task reading => exact aside (answer_cases taken).1
  | kill task result => exact aside (answer_cases taken).1
  | cancelled task flag => exact aside (answer_cases taken).1

/-- A step commits the write in flight, or leaves the database alone. -/
theorem step_db (taken : system.step label = some (next, out)) :
    (∃ flight result, system.store.inFlight = some flight ∧
        flight.request.outcome flight.nowMs system.store.db =
          (result, some next.store.db) ∧ committing result = true) ∨
      (commits (out.flatMap storeSeen) = [] ∧
        next.store.db = system.store.db) := by
  have aside {other : Nat} {respond : (op : Op) → Option op.Answer}
      {middle : System} (replied : system.reply other respond = some middle) :
      middle.store = system.store := by
    obtain ⟨_, _, _, _, _, _, _, rfl⟩ := reply_cases replied
    rfl
  cases label with
  | spawn job =>
      cases taken
      exact .inr ⟨rfl, rfl⟩
  | begin task nowMs =>
      obtain ⟨_, _, _, begun, rfl, rfl⟩ := begin_cases taken
      obtain ⟨_, _, _, rfl⟩ := Store.begin_cases begun
      exact .inr ⟨rfl, rfl⟩
  | transact faults =>
      obtain ⟨store, out, transacted, rfl, rfl⟩ := lift_cases taken
      obtain ⟨flight, busy, _, ⟨result, db, outcome, commits', rfl, rfl⟩ |
        ⟨_, _, _, rfl, rfl⟩⟩ := Store.transact_cases transacted
      · exact .inl ⟨flight, result, busy, outcome, commits'⟩
      · exact .inr ⟨rfl, rfl⟩
  | finish =>
      have silent := finish_silent taken
      obtain ⟨_, _, _, _, _, _, _, replied, finished, rfl, _⟩ :=
        finish_cases taken
      obtain ⟨_, _, _, _, _, rfl⟩ := Store.finish_cases finished
      exact .inr ⟨silent, rfl⟩
  | select task =>
      obtain ⟨_, replied, rfl⟩ := select_cases taken
      exact .inr ⟨rfl, congrArg Store.db (aside replied)⟩
  | refuse task error =>
      obtain ⟨_, replied, rfl⟩ := refuse_cases taken
      exact .inr ⟨rfl, congrArg Store.db (aside replied)⟩
  | clock task reading =>
      obtain ⟨replied, rfl⟩ := answer_cases taken
      exact .inr ⟨rfl, congrArg Store.db (aside replied)⟩
  | kill task result =>
      obtain ⟨replied, rfl⟩ := answer_cases taken
      exact .inr ⟨rfl, congrArg Store.db (aside replied)⟩
  | cancelled task flag =>
      obtain ⟨replied, rfl⟩ := answer_cases taken
      exact .inr ⟨rfl, congrArg Store.db (aside replied)⟩

/-- A write that is answered has been made. -/
theorem Writes.made (writes : system.Writes task envelope)
    (sound : system.Sound primary) (smooth : system.Smooth)
    (unfailing : Unfailing label)
    (settled : (system.settles task label).isSome = true) :
    system.made ≠ [] := by
  unfold settles at settled
  split at settled
  · split at settled
    · cases settled
    · rename_i flight busy
      split at settled
      · rename_i own
        cases decided : flight.result with
        | none =>
            rw [decided] at settled
            cases settled
        | some result =>
            have request := writes.flight sound busy own
            have commits' := smooth flight envelope result busy request decided
            simp [System.made, busy, decided, commits']
      · cases settled
  · cases unfailing
  · cases settled

theorem spawned_writes (envelope : EventEnvelope) :
    (system.spawned (.replay envelope)).Writes system.tasks.length envelope := by
  refine ⟨_, _, List.getElem?_concat_length, rfl, ?_⟩
  rintro (error | _ | eventId) <;> rfl

end Writes

end System

namespace Process

/-- No hook comes in, no probe ticks, and no write fails. -/
def Undisturbed : ProcessLabel → Prop
  | .handle _ | .tick => False
  | .work label => System.Unfailing label
  | _ => True

/-- The envelope that was handed on and is not committed yet. -/
def owing (process : Process) : List EventEnvelope :=
  match process.writer with
  | .writing task _ =>
      if process.system.isDone task = true ∨ process.system.made ≠ [] then []
      else (process.system.jobs[task]?.bind Job.envelope?).toList
  | .absent | .idle | .finished => []

structure Copying (process : Process) (seen : List ProcessSeen) : Prop where
  smooth : process.system.Smooth
  still : process.liveness.tasks = []
  waiting : ∀ item ∈ process.channel.items, item.origin = .replay
  writer : ∀ task draining, process.writer = .writing task draining →
    ∃ envelope, process.system.jobs[task]? = some (.replay envelope) ∧
      (process.system.isDone task = true ∨ process.system.Writes task envelope)
  unopened : ∀ task, process.main = .probing task →
    process.system.store.db.projections = []
  copied : envelopes (written seen) ++ process.owing =
    (handed seen).map (·.envelope)

section Copying

variable {config : ProcessConfig} {process next : Process}
variable {label : ProcessLabel} {seen out : List ProcessSeen}
variable {inner : SystemLabel} {system : System} {later : List SystemSeen}
variable {primary : EventEnvelope → Prop}

theorem WriterPolled.owing (polled : process.WriterPolled) :
    process.owing = [] := by
  rcases polled with idle | ⟨task, draining, writes, done⟩
  · rw [Process.owing, idle]
  · rw [Process.owing, writes]
    exact if_pos (.inl done)

/-- On an empty database the start-up probe has nothing to end. -/
theorem Copying.probing (copying : process.Copying seen)
    {committed : List (Commit Nat)} (marking : process.Marking committed)
    (bracketing : process.Bracketing committed)
    (running : process.exited = false) (sound : process.system.Sound primary)
    {task : Nat} (main : process.main = .probing task)
    (taken : process.system.step inner = some (system, later)) :
    commits (later.flatMap System.storeSeen) = [] ∧
      system.store.db = process.system.store.db := by
  rcases System.step_db taken with ⟨flight, result, busy, outcome, _⟩ | aside
  · have phase := bracketing.phase
    simp only [Phase, main] at phase
    obtain ⟨first, _, writer, liveness, _⟩ := phase
    have own := (bracketing.resting running).waits sound busy
    simp only [active, main, writer, liveness, MainState.tasks,
      WriterState.tasks, LivenessState.tasks, List.append_nil,
      List.mem_singleton] at own
    obtain ⟨job, found, asks⟩ := marking.keeps.flight sound busy
    rw [own, first, marking.probe] at found
    cases found
    obtain ⟨envelope, precondition, asked⟩ := asks
    have nothing : process.system.store.db.stored envelope.key = none := by
      simp [Db.stored, Db.selectSessionProjectionState, Db.projection,
        KeyedTable.lookup, copying.unopened task main]
    rw [asked] at outcome
    simp [WriteRequest.outcome, nothing, preconditionAdmits,
      WritePrecondition.admits] at outcome
  · exact aside

/-- While the writer writes nothing, no event is committed. -/
theorem Copying.silent (copying : process.Copying seen)
    {committed : List (Commit Nat)} (marking : process.Marking committed)
    (bracketing : process.Bracketing committed)
    (running : process.exited = false) (sound : process.system.Sound primary)
    (idle : process.writer.tasks = [])
    (taken : process.system.step inner = some (system, later)) :
    envelopes (commits (later.flatMap System.storeSeen)) = [] := by
  have marked {task : Nat} {job : Job}
      (waits : process.main.marker = some (task, job))
      (alone : process.main.tasks = [task])
      (marks : ∀ request, job.Asks request →
        ∀ envelope precondition, request ≠ .event envelope precondition) :
      envelopes (commits (later.flatMap System.storeSeen)) = [] := by
    refine List.filterMap_eq_nil_iff.mpr fun commit member => ?_
    obtain ⟨flight, busy, _, asked⟩ := System.step_commits taken commit member
    have own := (bracketing.resting running).waits sound busy
    rw [active, idle, copying.still, alone, List.append_nil, List.append_nil,
      List.mem_singleton] at own
    obtain ⟨other, found, asks⟩ := marking.keeps.flight sound busy
    rw [own, marking.waits task job waits] at found
    cases found
    have mark := marks flight.request asks
    rw [← asked] at mark
    unfold envelope?
    split
    · rename_i envelope precondition same
      exact absurd same (mark envelope precondition)
    · rfl
    · rfl
  cases main : process.main with
  | probing task =>
      rw [(copying.probing marking bracketing running sound main taken).1]
      rfl
  | startingRecording task =>
      refine marked (by rw [main]; rfl) (by rw [main]; rfl) ?_
      rintro request rfl _ _ same
      cases same
  | endingRecording started task =>
      refine marked (by rw [main]; rfl) (by rw [main]; rfl) ?_
      rintro request rfl _ _ same
      cases same
  | serving started =>
      refine List.filterMap_eq_nil_iff.mpr fun commit member => ?_
      obtain ⟨flight, busy, _⟩ := System.step_commits taken commit member
      have own := (bracketing.resting running).waits sound busy
      rw [active, main, idle, copying.still] at own
      cases own
  | exited window => simp [exited, main] at running

/-- A write owes its envelope until it is made. -/
theorem owing_writes {task : Nat} {draining : Bool} {envelope : EventEnvelope}
    (writer : process.writer = .writing task draining)
    (found : process.system.jobs[task]? = some (.replay envelope))
    (writes : process.system.Writes task envelope) :
    process.owing = if process.system.made ≠ [] then [] else [envelope] := by
  simp [owing, writer, found, writes.waiting, Job.envelope?]

theorem owing_done {task : Nat} {draining : Bool}
    (writer : process.writer = .writing task draining)
    (done : process.system.isDone task = true) : process.owing = [] := by
  rw [owing, writer]
  exact if_pos (.inl done)

/-- What the writer commits is what it owed. -/
theorem Copying.writing (copying : process.Copying seen)
    {committed : List (Commit Nat)} (bracketing : process.Bracketing committed)
    (running : process.exited = false) (sound : process.system.Sound primary)
    (holding : process.system.store.Holding)
    {task : Nat} {draining : Bool}
    (writer : process.writer = .writing task draining)
    (unfailing : System.Unfailing inner) (permitted : process.permits inner = true)
    (taken : process.system.step inner = some (system, later))
    {envelope : EventEnvelope}
    (found : process.system.jobs[task]? = some (.replay envelope))
    (phase : process.system.isDone task = true ∨
      process.system.Writes task envelope) :
    envelopes (commits (later.flatMap System.storeSeen)) ++
        ({ process with system } : Process).owing = process.owing ∧
      (system.isDone task = true ∨ system.Writes task envelope) := by
  have resting := bracketing.resting running
  obtain ⟨started, main, _⟩ := bracketing.serves running
    (.inl (by simp [writer]))
  have alone : process.active = [task] := by
    rw [active, main, writer, copying.still]
    rfl
  have kept : system.jobs[task]? = some (.replay envelope) := by
    rw [System.step_jobs taken]
    · exact found
    · rintro job rfl
      cases permitted
  rcases phase with done | writes
  · have free := resting.free sound (by simp [alone, done])
    have silent : commits (later.flatMap System.storeSeen) = [] := by
      rw [List.eq_nil_iff_forall_not_mem]
      intro commit member
      obtain ⟨flight, busy, _⟩ := System.step_commits taken commit member
      rw [free] at busy
      cases busy
    have finished := System.step_isDone taken done
    have nothing : ({ process with system } : Process).owing = [] :=
      owing_done writer finished
    refine ⟨?_, .inl finished⟩
    rw [owing_done writer done, nothing, silent]
    rfl
  rcases writes.step taken with ⟨unsettled, after⟩ | ⟨settled, finished⟩
  · refine ⟨?_, .inr after⟩
    have grown := System.step_made taken
      (resting.marking sound alone taken unsettled) holding
    have owes : ({ process with system } : Process).owing =
        if system.made ≠ [] then [] else [envelope] :=
      owing_writes writer kept after
    rw [owing_writes writer found writes, owes, ← grown]
    cases made : process.system.made with
    | cons commit rest =>
        -- one write makes one commit
        have silent : commits (later.flatMap System.storeSeen) = [] := by
          rw [made] at grown
          rcases system.made_cases with none | ⟨_, last, _, one, _⟩
          · rw [none] at grown
            cases grown
          · rw [one] at grown
            exact (List.append_eq_nil_iff.mp (List.cons.inj grown).2).2
        rw [silent]
        rfl
    | nil =>
        rw [made, List.nil_append] at grown
        rcases system.made_cases with none | ⟨_, commit, _, one, _⟩
        · rw [grown, none]
          rfl
        · have member : commit ∈ commits (later.flatMap System.storeSeen) := by
            rw [grown, one]
            exact List.mem_singleton_self commit
          obtain ⟨flight, busy, _, asked⟩ :=
            System.step_commits taken commit member
          have own := resting.waits sound busy
          rw [alone, List.mem_singleton] at own
          have request := writes.flight sound busy own
          rw [grown, one]
          simp [envelopes, envelope?, asked, request]
  · obtain ⟨answer, answered⟩ := Option.isSome_iff_exists.mp settled
    have nothing : ({ process with system } : Process).owing = [] :=
      owing_done writer finished
    refine ⟨?_, .inl finished⟩
    rw [owing_writes writer found writes, nothing,
      System.settles_silent taken answered,
      if_pos (writes.made sound copying.smooth unfailing settled)]
    rfl

theorem owing_idle (idle : process.writer.tasks = []) : process.owing = [] := by
  unfold owing
  cases writer : process.writer with
  | absent | idle | finished => rfl
  | writing task draining =>
      rw [writer] at idle
      cases idle

/-- What the writing side does leaves its callers as they are, or starts them. -/
theorem afterWork_kept (config : ProcessConfig) (process : Process)
    (inner : SystemLabel) (system : System) :
    ((process.afterWork config inner system).channel.items =
        process.channel.items ∨
      (process.afterWork config inner system).channel.items = []) ∧
    ((process.afterWork config inner system).liveness = process.liveness ∨
      (process.afterWork config inner system).liveness = .idle) ∧
    ((process.afterWork config inner system).writer = process.writer ∨
      (process.afterWork config inner system).writer = .idle) ∧
    ∀ task, (process.afterWork config inner system).main = .probing task →
      process.main = .probing task := by
  rcases afterWork_cases config process inner system with
    same | ⟨_, _, _, _, _, same⟩ | ⟨_, _, _, _, _, same⟩ | same
  · rw [same]
    exact ⟨.inl rfl, .inl rfl, .inl rfl, fun _ main => main⟩
  · rw [same]
    exact ⟨.inr rfl, .inr rfl, .inr rfl, nofun⟩
  · rw [same]
    exact ⟨.inl rfl, .inl rfl, .inl rfl, nofun⟩
  · rw [same]
    exact ⟨.inl rfl, .inl rfl, .inl rfl, nofun⟩

theorem Copying.worked (copying : process.Copying seen)
    (marking : process.Marking (written seen))
    (bracketing : process.Bracketing (written seen))
    (running : process.exited = false) (sound : process.system.Sound primary)
    (holding : process.system.store.Holding)
    (unfailing : System.Unfailing inner) (permitted : process.permits inner = true)
    (taken : process.system.step inner = some (system, later)) :
    (process.afterWork config inner system).Copying
      (seen ++ later.map .system) := by
  obtain ⟨channel, liveness, writer, main⟩ :=
    afterWork_kept config process inner system
  have made : written (seen ++ later.map .system) =
      written seen ++ commits (later.flatMap System.storeSeen) := by
    rw [written_append, written, written, systemSeen_system]
  constructor
  · rw [afterWork_system]
    exact copying.smooth.step unfailing taken
  · rcases liveness with same | idle
    · rw [same]
      exact copying.still
    · rw [idle]
      rfl
  · rcases channel with same | empty
    · rw [same]
      exact copying.waiting
    · rw [empty]
      simp
  · intro task draining writes
    rcases writer with same | idle
    · rw [same] at writes
      obtain ⟨envelope, found, phase⟩ := copying.writer task draining writes
      have after := (copying.writing bracketing running sound holding writes
        unfailing permitted taken found phase).2
      refine ⟨envelope, ?_, ?_⟩
      · rw [afterWork_system, System.step_jobs taken]
        · exact found
        · rintro job rfl
          cases permitted
      · rw [afterWork_system]
        exact after
    · rw [idle] at writes
      cases writes
  · intro task probing
    have before := main task probing
    rw [afterWork_system, (copying.probing marking bracketing running sound
      before taken).2]
    exact copying.unopened task before
  · rw [made, envelopes_append, handed_append, handed_system, List.append_nil,
      ← copying.copied, List.append_assoc]
    refine congrArg (envelopes (written seen) ++ ·) ?_
    cases writes : process.writer with
    | writing task draining =>
        obtain ⟨envelope, found, phase⟩ := copying.writer task draining writes
        obtain ⟨started, serves, _⟩ := bracketing.serves running
          (.inl (by simp [writes]))
        have same : process.afterWork config inner system =
            { process with system } := by
          simp [afterWork, serves]
        rw [same]
        exact (copying.writing bracketing running sound holding writes
          unfailing permitted taken found phase).1
    | absent | idle | finished =>
        have rests : process.writer.tasks = [] := by
          rw [writes]
          rfl
        have after : (process.afterWork config inner system).writer.tasks =
            [] := by
          rcases writer with same | idle
          · rw [same]
            exact rests
          · rw [idle]
            rfl
        rw [copying.silent marking bracketing running sound rests taken,
          owing_idle rests, owing_idle after]
        rfl

/-- A step that leaves the writing side and the writer as they are. -/
theorem Copying.aside (copying : process.Copying seen)
    (system : next.system = process.system) (writer : next.writer = process.writer)
    (main : next.main = process.main) (still : next.liveness.tasks = [])
    (waiting : ∀ item ∈ next.channel.items, item.origin = .replay)
    (made : written out = []) (passed : handed out = []) :
    next.Copying (seen ++ out) where
  smooth := by
    rw [system]
    exact copying.smooth
  still := still
  waiting := waiting
  writer := by
    rw [system, writer]
    exact copying.writer
  unopened := by
    rw [system, main]
    exact copying.unopened
  copied := by
    have owed : next.owing = process.owing := by
      simp only [owing, system, writer]
    rw [written_append, made, List.append_nil, handed_append, passed,
      List.append_nil, owed]
    exact copying.copied

/-- A step after which the writer writes nothing, and before which it owed
nothing. -/
theorem Copying.rests (copying : process.Copying seen)
    (store : next.system.store = process.system.store)
    (rests : next.writer.tasks = []) (owed : process.owing = [])
    (main : ∀ task, next.main = .probing task → process.main = .probing task)
    (still : next.liveness.tasks = [])
    (waiting : ∀ item ∈ next.channel.items, item.origin = .replay) :
    next.Copying seen where
  smooth := System.smooth_of_store copying.smooth store
  still := still
  waiting := waiting
  writer := by
    intro task draining writes
    rw [writes] at rests
    cases rests
  unopened := by
    intro task probing
    rw [store]
    exact copying.unopened task (main task probing)
  copied := by
    have copied := copying.copied
    rw [owed] at copied
    rw [owing_idle rests]
    exact copied

theorem Copying.handed (copying : process.Copying seen)
    (bracketing : process.Bracketing (written seen))
    (running : process.exited = false) (sound : process.system.Sound primary)
    {item : IngestItem} {channel : Channel IngestItem} {draining : Bool}
    (polled : process.WriterPolled)
    (received : process.channel.tryRecv = some (item, channel)) :
    ({ process with
        channel
        system := process.system.spawned (writeItem item)
        writer := .writing process.system.tasks.length draining } :
          Process).Copying
      (seen ++ [.handed process.system.tasks.length item]) := by
  obtain ⟨items, _⟩ := Channel.tryRecv_some received
  obtain ⟨started, main, _⟩ := bracketing.serves running (.inl polled.present)
  have replayed := copying.waiting item (by rw [items]; exact List.mem_cons_self)
  have job : writeItem item = .replay item.envelope := by
    rw [writeItem, replayed]
  have free := (bracketing.resting running).free sound (by
    intro task member
    rw [active, main, copying.still, List.append_nil] at member
    exact polled.done task member)
  have found : (process.system.spawned (writeItem item)).jobs[
      process.system.tasks.length]? = some (.replay item.envelope) := by
    rw [System.jobs_spawned, job, ← List.length_map TaskState.job]
    exact List.getElem?_concat_length
  have writes : (process.system.spawned (writeItem item)).Writes
      process.system.tasks.length item.envelope := by
    rw [job]
    exact System.spawned_writes item.envelope
  constructor
  · exact System.smooth_of_store copying.smooth rfl
  · exact copying.still
  · intro other member
    refine copying.waiting other ?_
    rw [items]
    exact List.mem_cons_of_mem item member
  · rintro task other ⟨rfl⟩
    exact ⟨item.envelope, found, .inr writes⟩
  · intro task probing
    rw [main] at probing
    cases probing
  · have copied := copying.copied
    rw [polled.owing, List.append_nil] at copied
    have none : (process.system.spawned (writeItem item)).made = [] :=
      System.made_free free
    rw [written_append, written_handed, List.append_nil, handed_append,
      List.map_append, copied, owing_writes rfl found writes, if_neg (by
        rw [none]
        exact fun some => some rfl)]
    rfl

theorem Copying.step (copying : process.Copying seen)
    (marking : process.Marking (written seen))
    (bracketing : process.Bracketing (written seen))
    (running : process.exited = false) (sound : process.system.Sound primary)
    (holding : process.system.store.Holding) (undisturbed : Undisturbed label)
    (moves : Moves config process label next out) :
    next.Copying (seen ++ out) := by
  have phase := bracketing.phase
  cases moves with
  | worked permitted taken =>
      exact copying.worked marking bracketing running sound holding undisturbed
        permitted taken
  | opens main _ =>
      simp only [Phase, main] at phase
      obtain ⟨_, _, writer, _⟩ := phase
      have rests : process.writer.tasks = [] := by
        rw [writer]
        rfl
      rw [List.append_nil]
      exact copying.rests rfl rests (owing_idle rests)
        (fun _ probing => by cases probing) copying.still
        copying.waiting
  | closes _ writer _ =>
      have rests : process.writer.tasks = [] := by
        rw [writer]
        rfl
      rw [List.append_nil]
      exact copying.rests rfl rests (owing_idle rests)
        (fun _ probing => by cases probing) copying.still
        copying.waiting
  | flagged =>
      exact copying.aside rfl rfl rfl copying.still copying.waiting rfl rfl
  | handled => cases undisturbed
  | @replayed body channel response _ runs =>
      refine copying.aside rfl rfl rfl copying.still ?_ rfl rfl
      obtain ⟨sent, forwarded⟩ : ∃ sent, Replay.Forwarded _ _ _ _ _ sent :=
        Replay.run_forwarded process.channel body
      rw [runs] at forwarded
      have items : channel.items = process.channel.items ++ sent :=
        forwarded.items
      intro item member
      rw [items, List.mem_append] at member
      rcases member with member | member
      · exact copying.waiting item member
      · obtain ⟨line, _, brings⟩ :=
          List.mem_filterMap.mp (forwarded.sublist.subset member)
        obtain ⟨_, _, _, _, _, rfl⟩ := Replay.item?_eq_some_iff.mp brings
        rfl
  | handed polled received =>
      exact copying.handed bracketing running sound polled received
  | drained polled _ =>
      rw [List.append_nil]
      exact copying.rests rfl rfl polled.owing (fun _ main => main)
        copying.still fun _ member => absurd member List.not_mem_nil
  | rested writes done =>
      rw [List.append_nil]
      exact copying.rests rfl rfl (owing_done writes done) (fun _ main => main)
        copying.still copying.waiting
  | ticked => cases undisturbed
  | slept probing _ =>
      have still := copying.still
      rw [probing] at still
      cases still
  | stopped =>
      exact copying.aside rfl rfl rfl rfl copying.waiting rfl rfl

end Copying

section Drained

variable {config : ProcessConfig} {ok : Process → ProcessLabel → Prop}
variable {final : Process} {faults : FaultPlan} {seen : List ProcessSeen}

theorem copying_of_run
    (run : (machine config).Run ok (boot config.serde.parse faults Db.empty)
      final seen)
    (undisturbed : ∀ process label, ok process label → Undisturbed label) :
    final.Copying seen := by
  refine run.invariant Copying ?_ ?_
  · exact {
      smooth := by
        rintro flight envelope result ⟨⟩
      still := rfl
      waiting := fun _ member => absurd member List.not_mem_nil
      writer := by
        intro task draining writes
        cases writes
      unopened := by
        intro task _
        have opens : opened config.serde.parse faults Db.empty = Db.empty :=
          opened_of_folds (foldsLog_empty config.serde.parse) _ faults
        have empty : (boot config.serde.parse faults
            Db.empty).system.store.db = Db.empty := opens
        rw [empty]
        rfl
      copied := rfl }
  · intro middle next before out label early copying allowed taken
    obtain ⟨running, moves⟩ := step_moves taken
    exact copying.step (marking_of_run Db.wellFormed_empty early)
      (bracketing_of_run Db.wellFormed_empty early) running
      (sound_of_boot early) (ledger_of_boot early Db.wellFormed_empty).holding
      (undisturbed middle label allowed) moves

/-- Nothing waits for the writer, and it has nothing left to write. -/
def Drained (process : Process) : Prop :=
  process.channel.items = [] ∧
    ∀ task ∈ process.writer.tasks, process.system.isDone task = true

theorem Drained.owing {process : Process} (drained : process.Drained) :
    process.owing = [] := by
  cases writer : process.writer with
  | absent | idle | finished =>
      refine owing_idle ?_
      rw [writer]
      rfl
  | writing task draining =>
      refine owing_done writer (drained.2 task ?_)
      rw [writer]
      exact List.mem_singleton_self task

/-- Once the channel is drained, what was accepted is what is committed, in
order. -/
theorem envelopes_of_drained
    (run : (machine config).Run ok (boot config.serde.parse faults Db.empty)
      final seen)
    (undisturbed : ∀ process label, ok process label → Undisturbed label)
    (drained : final.Drained) :
    envelopes (written seen) = (accepted seen).map (·.envelope) := by
  have copied := (copying_of_run run undisturbed).copied
  rw [drained.owing, List.append_nil] at copied
  have draining := draining_of_run run (draining_absent rfl rfl)
  have fifo := draining.fifo
  rw [drained.1, List.append_nil] at fifo
  rw [copied, fifo]

end Drained

end Process

end Bowerbird.Daemon
