import Bowerbird.Daemon.FrontDoors

namespace Bowerbird.Daemon

open Protocol Foundation Projection Ingest Api

/-! A run between its two recording markers: which rows stand inside the window,
and which do not. -/

namespace System

variable {system next : System} {label : SystemLabel} {out : List SystemSeen}
variable {task : Nat}

/-! Tasks that are done, and tasks with one write to make. -/

theorem isDone_iff : system.isDone task = true ↔
    ∃ state result, system.tasks[task]? = some state ∧
      state.task = .done result := by
  unfold isDone
  constructor
  · intro done
    split at done
    · cases done
    · rename_i state found
      split at done
      · rename_i result finished
        exact ⟨state, result, found, finished⟩
      · cases done
  · rintro ⟨state, result, found, finished⟩
    simp [found, finished]

/-- Waiting for a write, and done once it is answered. -/
def Single (system : System) (task : Nat) : Prop :=
  ∃ state op resume, system.tasks[task]? = some state ∧
    state.task = .ask op resume ∧ op.request?.isSome = true ∧
    ∀ answer, resume answer = .done none

/-- Beside a new task, a step at most answers one. -/
theorem step_tasks (taken : system.step label = some (next, out)) :
    (∃ job, label = .spawn job ∧ next = system.spawned job) ∨
      next.tasks = system.tasks ∨
      ∃ other respond middle, system.reply other respond = some middle ∧
        next.tasks = middle.tasks := by
  cases label with
  | spawn job =>
      cases taken
      exact .inl ⟨job, rfl, rfl⟩
  | begin task nowMs =>
      obtain ⟨_, _, _, _, rfl, _⟩ := begin_cases taken
      exact .inr (.inl rfl)
  | transact faults =>
      obtain ⟨_, _, _, rfl, _⟩ := lift_cases taken
      exact .inr (.inl rfl)
  | finish =>
      obtain ⟨_, _, middle, _, _, _, _, replied, _, rfl, _⟩ :=
        finish_cases taken
      exact .inr (.inr ⟨_, _, middle, replied, rfl⟩)
  | select task =>
      obtain ⟨_, replied, _⟩ := select_cases taken
      exact .inr (.inr ⟨_, _, next, replied, rfl⟩)
  | refuse task error =>
      obtain ⟨_, replied, _⟩ := refuse_cases taken
      exact .inr (.inr ⟨_, _, next, replied, rfl⟩)
  | clock task reading =>
      obtain ⟨replied, _⟩ := answer_cases taken
      exact .inr (.inr ⟨_, _, next, replied, rfl⟩)
  | kill task result =>
      obtain ⟨replied, _⟩ := answer_cases taken
      exact .inr (.inr ⟨_, _, next, replied, rfl⟩)
  | cancelled task flag =>
      obtain ⟨replied, _⟩ := answer_cases taken
      exact .inr (.inr ⟨_, _, next, replied, rfl⟩)

theorem isDone_spawned (job : Job) (done : system.isDone task = true) :
    (system.spawned job).isDone task = true := by
  obtain ⟨state, result, found, finished⟩ := isDone_iff.mp done
  refine isDone_iff.mpr ⟨state, result, ?_, finished⟩
  have inside := (List.getElem?_eq_some_iff.mp found).1
  exact (List.getElem?_append_left inside).trans found

theorem step_isDone (taken : system.step label = some (next, out))
    (done : system.isDone task = true) : next.isDone task = true := by
  obtain ⟨state, result, found, finished⟩ := isDone_iff.mp done
  rcases step_tasks taken with ⟨job, _, rfl⟩ | same |
    ⟨other, respond, middle, replied, same⟩
  · exact isDone_spawned job done
  · exact isDone_iff.mpr ⟨state, result, by rw [same]; exact found, finished⟩
  · obtain ⟨asking, op, resume, answer, here, waiting, _, rfl⟩ :=
      reply_cases replied
    refine isDone_iff.mpr ⟨state, result, ?_, finished⟩
    have apart : other ≠ task := by
      rintro rfl
      rw [found] at here
      cases here
      rw [finished] at waiting
      cases waiting
    rw [same, List.getElem?_set_ne apart]
    exact found

theorem step_length (taken : system.step label = some (next, out))
    (old : ∀ job, label ≠ .spawn job) :
    next.tasks.length = system.tasks.length := by
  rcases step_tasks taken with ⟨job, spawns, _⟩ | same |
    ⟨_, _, middle, replied, same⟩
  · exact absurd spawns (old job)
  · rw [same]
  · obtain ⟨_, _, _, _, _, _, _, rfl⟩ := reply_cases replied
    rw [same, List.length_set]

/-- A reply to the task itself ends it, one to another leaves it. -/
theorem Single.reply {other : Nat} {respond : (op : Op) → Option op.Answer}
    (single : system.Single task)
    (replied : system.reply other respond = some next) :
    (other ≠ task ∧ next.Single task) ∨
      (other = task ∧ next.isDone task = true ∧
        ∃ op answer, op.request?.isSome = true ∧ respond op = some answer) := by
  obtain ⟨state, op, resume, found, waiting, writes, once⟩ := single
  obtain ⟨asking, op', resume', answer, here, asks, responded, rfl⟩ :=
    reply_cases replied
  by_cases own : other = task
  · subst own
    rw [found] at here
    cases here
    rw [waiting] at asks
    cases asks
    refine .inr ⟨rfl, ?_, op, answer, writes, responded⟩
    refine isDone_iff.mpr ⟨_, none, List.getElem?_set_self ?_, once answer⟩
    exact (List.getElem?_eq_some_iff.mp found).1
  · refine .inl ⟨own, state, op, resume, ?_, waiting, writes, once⟩
    rw [List.getElem?_set_ne own]
    exact found

/-- The one write is still to be answered, or has been and the task is done. -/
theorem Single.step (single : system.Single task)
    (taken : system.step label = some (next, out)) :
    (system.settles task label = none ∧ next.Single task) ∨
      ((system.settles task label).isSome = true ∧
        next.isDone task = true) := by
  have aside {other : Nat} {respond : (op : Op) → Option op.Answer}
      {middle : System} (replied : system.reply other respond = some middle)
      (reads : ∀ op answer, respond op = some answer → op.request? = none) :
      middle.Single task := by
    rcases single.reply replied with ⟨_, kept⟩ |
      ⟨_, _, op, answer, writes, responded⟩
    · exact kept
    · rw [reads op answer responded] at writes
      cases writes
  cases label with
  | spawn job =>
      cases taken
      obtain ⟨state, op, resume, found, waiting, writes, once⟩ := single
      refine .inl ⟨rfl, state, op, resume, ?_, waiting, writes, once⟩
      rw [List.getElem?_append_left (List.getElem?_eq_some_iff.mp found).1]
      exact found
  | begin other nowMs =>
      obtain ⟨_, _, _, _, rfl, _⟩ := begin_cases taken
      exact .inl ⟨rfl, single⟩
  | transact faults =>
      obtain ⟨_, _, _, rfl, _⟩ := lift_cases taken
      exact .inl ⟨rfl, single⟩
  | finish =>
      obtain ⟨flight, result, middle, _, _, busy, settled, replied, _, rfl,
        _⟩ := finish_cases taken
      rcases single.reply replied with ⟨apart, kept⟩ | ⟨own, done, _⟩
      · exact .inl ⟨by simp [settles, busy, apart], kept⟩
      · exact .inr ⟨by simp [settles, busy, own, settled], done⟩
  | refuse other error =>
      obtain ⟨_, replied, _⟩ := refuse_cases taken
      rcases single.reply replied with ⟨apart, kept⟩ | ⟨own, done, _⟩
      · exact .inl ⟨by simp [settles, apart], kept⟩
      · exact .inr ⟨by simp [settles, own], done⟩
  | select other =>
      obtain ⟨_, replied, _⟩ := select_cases taken
      refine .inl ⟨rfl, aside replied ?_⟩
      intro op answer responded
      cases op <;> first | rfl | cases responded
  | clock other reading =>
      obtain ⟨replied, _⟩ := answer_cases taken
      refine .inl ⟨rfl, aside replied ?_⟩
      intro op answer responded
      cases op <;> first | rfl | cases responded
  | kill other result =>
      obtain ⟨replied, _⟩ := answer_cases taken
      refine .inl ⟨rfl, aside replied ?_⟩
      intro op answer responded
      cases op <;> first | rfl | cases responded
  | cancelled other flag =>
      obtain ⟨replied, _⟩ := answer_cases taken
      refine .inl ⟨rfl, aside replied ?_⟩
      intro op answer responded
      cases op <;> first | rfl | cases responded

/-! The write in flight, and the commit that it has made. -/

def made (system : System) : List (Commit Nat) :=
  match system.store.inFlight with
  | none => []
  | some flight =>
      match flight.result with
      | none => []
      | some result =>
          if committing result then
            [⟨flight.owner, flight.request, flight.nowMs, flight.opened⟩]
          else []

theorem made_free (free : system.store.inFlight = none) : system.made = [] := by
  simp [made, free]

/-- Until a write finishes, what is committed is what has been made. -/
theorem step_made (taken : system.step label = some (next, out))
    (unfinished : label ≠ .finish) (holding : system.store.Holding) :
    system.made ++ commits (out.flatMap storeSeen) = next.made := by
  have replied_made {other : Nat} {respond : (op : Op) → Option op.Answer}
      {middle : System} (replied : system.reply other respond = some middle) :
      middle.made = system.made := by
    obtain ⟨_, _, _, _, _, _, _, rfl⟩ := reply_cases replied
    rfl
  cases label with
  | spawn job =>
      cases taken
      exact List.append_nil _
  | begin task nowMs =>
      obtain ⟨request, store, _, begun, rfl, rfl⟩ := begin_cases taken
      obtain ⟨free, _, _, rfl⟩ := Store.begin_cases begun
      rw [made_free free]
      rfl
  | transact faults =>
      obtain ⟨store, out, transacted, rfl, rfl⟩ := lift_cases taken
      rw [flatMap_storeSeen_map]
      obtain ⟨flight, busy, unsettled, ⟨result, db, _, commits', rfl, rfl⟩ |
        ⟨result, aborts, _, rfl, rfl⟩⟩ := Store.transact_cases transacted
      · have opened := (holding flight busy).2
        rw [unsettled] at opened
        simp [made, busy, unsettled, commits', opened]
      · simp [made, busy, unsettled, aborts]
  | finish => exact absurd rfl unfinished
  | select task =>
      obtain ⟨_, replied, rfl⟩ := select_cases taken
      rw [replied_made replied]
      exact List.append_nil _
  | refuse task error =>
      obtain ⟨_, replied, rfl⟩ := refuse_cases taken
      rw [replied_made replied]
      exact List.append_nil _
  | clock task reading =>
      obtain ⟨replied, rfl⟩ := answer_cases taken
      rw [replied_made replied]
      exact List.append_nil _
  | kill task result =>
      obtain ⟨replied, rfl⟩ := answer_cases taken
      rw [replied_made replied]
      exact List.append_nil _
  | cancelled task flag =>
      obtain ⟨replied, rfl⟩ := answer_cases taken
      rw [replied_made replied]
      exact List.append_nil _

/-- What a step commits is the write in flight. -/
theorem step_commits (taken : system.step label = some (next, out)) :
    ∀ commit ∈ commits (out.flatMap storeSeen), ∃ flight,
      system.store.inFlight = some flight ∧ commit.owner = flight.owner ∧
        commit.request = flight.request := by
  intro commit member
  cases label with
  | spawn job => cases taken; cases member
  | begin task nowMs =>
      obtain ⟨_, _, _, _, _, rfl⟩ := begin_cases taken
      cases member
  | transact faults =>
      obtain ⟨store, out, transacted, rfl, rfl⟩ := lift_cases taken
      rw [flatMap_storeSeen_map] at member
      obtain ⟨flight, busy, _, ⟨_, _, _, _, rfl, _⟩ | ⟨_, _, _, rfl, _⟩⟩ :=
        Store.transact_cases transacted
      · rw [commits_committed, List.mem_singleton] at member
        exact ⟨flight, busy, by rw [member], by rw [member]⟩
      · cases member
  | finish =>
      obtain ⟨_, _, _, _, _, _, _, _, finished, _, rfl⟩ := finish_cases taken
      obtain ⟨_, _, _, _, rfl, _⟩ := Store.finish_cases finished
      cases member
  | select task =>
      obtain ⟨_, _, rfl⟩ := select_cases taken
      cases member
  | refuse task error =>
      obtain ⟨_, _, rfl⟩ := refuse_cases taken
      cases member
  | clock task reading =>
      obtain ⟨_, rfl⟩ := answer_cases taken
      cases member
  | kill task result =>
      obtain ⟨_, rfl⟩ := answer_cases taken
      cases member
  | cancelled task flag =>
      obtain ⟨_, rfl⟩ := answer_cases taken
      cases member

theorem Sound.waits {primary : EventEnvelope → Prop}
    (sound : system.Sound primary) {flight : InFlight Nat}
    (busy : system.store.inFlight = some flight) :
    flight.owner < system.tasks.length ∧
      system.isDone flight.owner = false := by
  obtain ⟨state, op, resume, found, waiting, _⟩ :=
    request?_cases (sound.flight flight busy)
  refine ⟨(List.getElem?_eq_some_iff.mp found).1, ?_⟩
  simp [isDone, found, waiting]

theorem finish_silent (taken : system.step .finish = some (next, out)) :
    commits (out.flatMap storeSeen) = [] := by
  obtain ⟨_, _, _, _, _, _, _, _, finished, _, rfl⟩ := finish_cases taken
  obtain ⟨_, _, _, _, rfl, _⟩ := Store.finish_cases finished
  rfl

/-- A write that is answered with its outcome has made one commit. -/
theorem settles_made (taken : system.step label = some (next, out))
    (holding : system.store.Holding) {outcome : Outcome}
    (settled : system.settles task label = some (some outcome))
    (commits' : committing (.ok outcome) = true) :
    commits (out.flatMap storeSeen) = [] ∧
      ∃ commit, system.made = [commit] ∧
        (∃ flight, system.store.inFlight = some flight ∧
          commit.owner = flight.owner) ∧
        (commit.request.outcome commit.nowMs commit.before).1 =
          .ok outcome := by
  unfold settles at settled
  split at settled
  · refine ⟨finish_silent taken, ?_⟩
    split at settled
    · cases settled
    · rename_i flight busy
      split at settled
      · obtain ⟨result, decided, same⟩ := Option.map_eq_some_iff.mp settled
        cases result with
        | error error => cases same
        | ok other =>
            cases same
            have held := (holding flight busy).2
            rw [decided] at held
            refine ⟨⟨flight.owner, flight.request, flight.nowMs,
              flight.opened⟩, by simp [made, busy, decided, commits'],
              ⟨flight, busy, rfl⟩, ?_⟩
            rcases held with ⟨_, aborted⟩ | done
            · rw [commits'] at aborted
              cases aborted
            · rw [done]
      · cases settled
  · split at settled <;> cases settled
  · cases settled

end System

/-! The tasks that are still waited for. -/

@[simp] def MainState.tasks : MainState → List Nat
  | probing task | startingRecording task | endingRecording _ task => [task]
  | serving _ | exited _ => []

@[simp] def WriterState.tasks : WriterState → List Nat
  | writing task _ => [task]
  | absent | idle | finished => []

@[simp] def LivenessState.tasks : LivenessState → List Nat
  | probing task => [task]
  | absent | idle | finished => []

namespace Process

def active (process : Process) : List Nat :=
  process.main.tasks ++ (process.writer.tasks ++ process.liveness.tasks)

/-- Nobody but the tasks still waited for has anything left to do. -/
def Resting (process : Process) : Prop :=
  ∀ task < process.system.tasks.length, task ∉ process.active →
    process.system.isDone task = true

/-- The commits of a run, in order. -/
def written (seen : List ProcessSeen) : List (Commit Nat) :=
  commits ((systemSeen seen).flatMap System.storeSeen)

@[simp] theorem written_nil : written [] = [] :=
  rfl

@[simp] theorem written_handed (task : Nat) (item : IngestItem) :
    written [.handed task item] = [] :=
  rfl

@[simp] theorem written_handled (accepted : Option IngestItem)
    (reply : Option Reply) : written [.handled accepted reply] = [] :=
  rfl

@[simp] theorem written_replayed (accepted : List IngestItem)
    (response : Replay.ReplayResponse) :
    written [.replayed accepted response] = [] :=
  rfl

theorem written_append (seen later : List ProcessSeen) :
    written (seen ++ later) = written seen ++ written later := by
  simp [written]

/-- All by the start-up probe. -/
def Probed (committed : List (Commit Nat)) : Prop :=
  ∀ commit ∈ committed, commit.owner = startupProbe

/-- The start-up probe's, then the marker, then everybody else's. -/
def Opened (startedId : Int) (committed : List (Commit Nat)) : Prop :=
  ∃ probed mark middle, committed = probed ++ mark :: middle ∧
    Probed probed ∧ mark.owner ≠ startupProbe ∧
    mark.request = .recordingStarted ∧ mark.row.eventId = startedId ∧
    ∀ commit ∈ middle, commit.owner ≠ startupProbe

/-- How far the run has come, and what it has committed on the way. -/
def Phase (process : Process) (committed : List (Commit Nat)) : Prop :=
  match process.main with
  | .probing task =>
      task = startupProbe ∧ process.system.tasks.length = 1 ∧
        process.writer = .absent ∧ process.liveness = .absent ∧
        Probed committed
  | .startingRecording task =>
      process.system.isDone startupProbe = true ∧
        process.writer = .absent ∧ process.liveness = .absent ∧
        process.system.Single task ∧
        ∃ probed, Probed probed ∧ committed = probed ++ process.system.made
  | .serving started =>
      process.system.isDone startupProbe = true ∧
        Opened started.eventId committed
  | .endingRecording started _ =>
      process.system.isDone startupProbe = true ∧
        process.writer = .finished ∧ process.liveness = .finished ∧
        ∃ during, Opened started.eventId during ∧
          committed = during ++ process.system.made
  | .exited none => True
  | .exited (some window) =>
      ∃ during last, Opened window.started during ∧
        committed = during ++ [last] ∧ last.owner ≠ startupProbe ∧
        (∃ id, last.request = .recordingEnded id) ∧
        last.row.eventId = window.ended

variable {config : ProcessConfig} {process next : Process}
variable {label : ProcessLabel} {out : List ProcessSeen}

theorem Resting.waits (resting : process.Resting)
    {primary : EventEnvelope → Prop} (sound : process.system.Sound primary)
    {flight : InFlight Nat}
    (busy : process.system.store.inFlight = some flight) :
    flight.owner ∈ process.active := by
  obtain ⟨inside, waiting⟩ := sound.waits busy
  by_contra idle
  rw [resting flight.owner inside idle] at waiting
  cases waiting

/-- A task that is done frees its place, and a new one takes it. -/
theorem Resting.spawned (resting : process.Resting) (job : Job)
    (system : next.system = process.system.spawned job)
    (active : ∀ task ∈ process.active, task ∈ next.active ∨
      process.system.isDone task = true)
    (new : process.system.tasks.length ∈ next.active) : next.Resting := by
  intro task inside idle
  rw [system] at inside ⊢
  have length : (process.system.spawned job).tasks.length =
      process.system.tasks.length + 1 := by
    simp [System.spawned]
  have old : task < process.system.tasks.length := by
    by_contra beyond
    have last : task = process.system.tasks.length := by omega
    rw [last] at idle
    exact idle new
  apply System.isDone_spawned
  by_cases was : task ∈ process.active
  · exact (active task was).resolve_left idle
  · exact resting task old was

theorem Resting.kept (resting : process.Resting)
    (system : next.system = process.system)
    (active : ∀ task ∈ process.active, task ∈ next.active ∨
      process.system.isDone task = true) : next.Resting := by
  intro task inside idle
  rw [system] at inside ⊢
  by_cases was : task ∈ process.active
  · exact (active task was).resolve_left idle
  · exact resting task inside was

theorem Resting.worked (resting : process.Resting) {inner : SystemLabel}
    {seen : List SystemSeen}
    (permitted : process.permits inner = true)
    (taken : process.system.step inner = some (next.system, seen))
    (active : ∀ task ∈ process.active, task ∈ next.active ∨
      next.system.isDone task = true) : next.Resting := by
  intro task inside idle
  have length := System.step_length taken (by
    rintro job rfl
    cases permitted)
  rw [length] at inside
  by_cases was : task ∈ process.active
  · exact (active task was).resolve_left idle
  · exact System.step_isDone taken (resting task inside was)

theorem Opened.append {startedId : Int} {committed more : List (Commit Nat)}
    (opened : Opened startedId committed)
    (others : ∀ commit ∈ more, commit.owner ≠ startupProbe) :
    Opened startedId (committed ++ more) := by
  obtain ⟨probed, mark, middle, rfl, early, own, marks, id, late⟩ := opened
  refine ⟨probed, mark, middle ++ more, by simp, early, own, marks, id, ?_⟩
  intro commit member
  rcases List.mem_append.mp member with member | member
  · exact late commit member
  · exact others commit member

/-- Only the task of its own marker may write while a marker is written. -/
theorem Resting.marking (resting : process.Resting)
    {primary : EventEnvelope → Prop} (sound : process.system.Sound primary)
    {task : Nat} (alone : process.active = [task]) {inner : SystemLabel}
    {system : System} {seen : List SystemSeen}
    (taken : process.system.step inner = some (system, seen))
    (unsettled : process.system.settles task inner = none) :
    inner ≠ .finish := by
  rintro rfl
  obtain ⟨flight, result, _, _, _, busy, settled, _⟩ :=
    System.finish_cases taken
  have own := resting.waits sound busy
  rw [alone, List.mem_singleton] at own
  simp [System.settles, busy, own, settled] at unsettled

theorem started_mark {commit : Commit Nat} {eventId recordingSessionId : Int}
    (outcome : (commit.request.outcome commit.nowMs commit.before).1 =
      .ok (.recordingStarted eventId recordingSessionId)) :
    commit.request = .recordingStarted ∧ commit.row.eventId = eventId := by
  cases asked : commit.request with
  | event envelope precondition =>
      rw [asked] at outcome
      simp only [WriteRequest.outcome] at outcome
      split at outcome <;> cases outcome
  | recordingStarted =>
      rw [asked] at outcome
      cases outcome
      exact ⟨rfl, rfl⟩
  | recordingEnded id =>
      rw [asked] at outcome
      simp only [WriteRequest.outcome] at outcome
      split at outcome <;> cases outcome

theorem ended_mark {commit : Commit Nat} {eventId : Int}
    (outcome : (commit.request.outcome commit.nowMs commit.before).1 =
      .ok (.recordingEnded eventId)) :
    (∃ id, commit.request = .recordingEnded id) ∧
      commit.row.eventId = eventId := by
  cases asked : commit.request with
  | event envelope precondition =>
      rw [asked] at outcome
      simp only [WriteRequest.outcome] at outcome
      split at outcome <;> cases outcome
  | recordingStarted =>
      rw [asked] at outcome
      cases outcome
  | recordingEnded id =>
      rw [asked] at outcome
      simp only [WriteRequest.outcome] at outcome
      split at outcome
      · cases outcome
      · cases outcome
        exact ⟨⟨id, rfl⟩, rfl⟩

/-- The invariant of a run: who is still at work, and how far it has come. -/
structure Bracketing (process : Process) (committed : List (Commit Nat)) :
    Prop where
  resting : process.exited = false → process.Resting
  phase : process.Phase committed

variable {committed : List (Commit Nat)} {inner : SystemLabel}
variable {system : System} {seen : List SystemSeen}
variable {primary : EventEnvelope → Prop}

theorem bracketing_exited (left : process.main = .exited none) :
    process.Bracketing committed where
  resting := by
    intro running
    simp [exited, left] at running
  phase := by
    simp only [Phase, left]

theorem Bracketing.worked (bracketing : process.Bracketing committed)
    (running : process.exited = false)
    (sound : process.system.Sound primary)
    (holding : process.system.store.Holding)
    (permitted : process.permits inner = true)
    (taken : process.system.step inner = some (system, seen)) :
    (process.afterWork config inner system).Bracketing
      (committed ++ commits (seen.flatMap System.storeSeen)) := by
  have resting := bracketing.resting running
  have phase := bracketing.phase
  have stays : ({ process with system } : Process).Resting :=
    resting.worked permitted taken fun task member => .inl member
  have other {task : Nat} (done : process.system.isDone task = true)
      {commit : Commit Nat} (busy : ∃ flight,
        process.system.store.inFlight = some flight ∧
          commit.owner = flight.owner) : commit.owner ≠ task := by
    rintro rfl
    obtain ⟨flight, busy, own⟩ := busy
    have waiting := (sound.waits busy).2
    rw [← own, done] at waiting
    cases waiting
  cases main : process.main with
  | probing task =>
      have same : process.afterWork config inner system =
          { process with system } := by
        simp [afterWork, main]
      simp only [Phase, main] at phase
      obtain ⟨first, one, writer, liveness, probed⟩ := phase
      have length := System.step_length taken (by
        rintro job rfl
        cases permitted)
      rw [same]
      refine ⟨fun _ => stays, ?_⟩
      simp only [Phase, main]
      refine ⟨first, length.trans one, writer, liveness, ?_⟩
      intro commit member
      rcases List.mem_append.mp member with member | member
      · exact probed commit member
      · obtain ⟨flight, busy, own, _⟩ :=
          System.step_commits taken commit member
        have inside := (sound.waits busy).1
        rw [own]
        simp only [startupProbe]
        omega
  | startingRecording task =>
      simp only [Phase, main] at phase
      obtain ⟨done, writer, liveness, single, probed, early, rfl⟩ := phase
      have alone : process.active = [task] := by
        simp [active, main, writer, liveness]
      rcases single.step taken with ⟨unsettled, kept⟩ | ⟨settled, finished⟩
      · have same : process.afterWork config inner system =
            { process with system } := by
          simp [afterWork, main, unsettled]
        rw [same]
        refine ⟨fun _ => stays, ?_⟩
        simp only [Phase, main]
        refine ⟨System.step_isDone taken done, writer, liveness, kept, probed,
          early, ?_⟩
        rw [List.append_assoc, System.step_made taken
          (resting.marking sound alone taken unsettled) holding]
      · obtain ⟨answer, settled⟩ := Option.isSome_iff_exists.mp settled
        cases answer with
        | none =>
            apply bracketing_exited
            simp [afterWork, main, settled]
        | some outcome =>
            cases outcome with
            | recordingStarted eventId recordingSessionId =>
                obtain ⟨silent, mark, made, busy, outcome⟩ :=
                  System.settles_made taken holding settled rfl
                obtain ⟨marks, id⟩ := started_mark outcome
                simp only [afterWork, main, settled]
                rw [silent, List.append_nil, made]
                refine ⟨fun _ => ?_, System.step_isDone taken done, probed,
                  mark, [], rfl, early, other done busy, marks, id, by simp⟩
                apply resting.worked permitted taken
                intro other member
                rw [alone, List.mem_singleton] at member
                exact .inr (member ▸ finished)
            | written | skipped | recordingEnded =>
                apply bracketing_exited
                simp [afterWork, main, settled]
  | serving started =>
      have same : process.afterWork config inner system =
          { process with system } := by
        simp [afterWork, main]
      simp only [Phase, main] at phase
      obtain ⟨done, opened⟩ := phase
      rw [same]
      refine ⟨fun _ => stays, ?_⟩
      simp only [Phase, main]
      refine ⟨System.step_isDone taken done, opened.append ?_⟩
      intro commit member
      obtain ⟨flight, busy, own, _⟩ := System.step_commits taken commit member
      exact other done ⟨flight, busy, own⟩
  | endingRecording started task =>
      simp only [Phase, main] at phase
      obtain ⟨done, writer, liveness, during, opened, rfl⟩ := phase
      have alone : process.active = [task] := by
        simp [active, main, writer, liveness]
      cases settled : process.system.settles task inner with
      | none =>
          have same : process.afterWork config inner system =
              { process with system } := by
            simp [afterWork, main, settled]
          rw [same]
          refine ⟨fun _ => stays, ?_⟩
          simp only [Phase, main]
          refine ⟨System.step_isDone taken done, writer, liveness, during,
            opened, ?_⟩
          rw [List.append_assoc, System.step_made taken
            (resting.marking sound alone taken settled) holding]
      | some answer =>
          cases answer with
          | none =>
              apply bracketing_exited
              simp [afterWork, main, settled]
          | some outcome =>
              cases outcome with
              | recordingEnded eventId =>
                  obtain ⟨silent, last, made, busy, outcome⟩ :=
                    System.settles_made taken holding settled rfl
                  obtain ⟨marks, id⟩ := ended_mark outcome
                  simp only [afterWork, main, settled]
                  rw [silent, List.append_nil, made]
                  exact ⟨by rintro ⟨⟩, during, last, opened, rfl,
                    other done busy, marks, id⟩
              | written | skipped | recordingStarted =>
                  apply bracketing_exited
                  simp [afterWork, main, settled]
  | exited window => simp [exited, main] at running

theorem Resting.free (resting : process.Resting)
    (sound : process.system.Sound primary)
    (idle : ∀ task ∈ process.active, process.system.isDone task = true) :
    process.system.store.inFlight = none := by
  cases busy : process.system.store.inFlight with
  | none => rfl
  | some flight =>
      have waiting := (sound.waits busy).2
      rw [idle _ (resting.waits sound busy)] at waiting
      cases waiting

/-- A step that leaves the tasks and whoever waits for them as they are. -/
theorem Bracketing.aside (bracketing : process.Bracketing committed)
    (system : next.system = process.system) (main : next.main = process.main)
    (writer : next.writer = process.writer)
    (liveness : next.liveness = process.liveness) :
    next.Bracketing committed := by
  have active : next.active = process.active := by
    simp only [Process.active, main, writer, liveness]
  constructor
  · intro running
    have before : process.exited = false := by
      simpa only [exited, main] using running
    apply (bracketing.resting before).kept system
    intro task member
    exact .inl (active ▸ member)
  · have phase := bracketing.phase
    simp only [Phase, system, main, writer, liveness] at phase ⊢
    exact phase

/-- The writer and the periodic probe work only while the daemon serves. -/
theorem Bracketing.serves (bracketing : process.Bracketing committed)
    (running : process.exited = false)
    (working : (process.writer ≠ .absent ∧ process.writer ≠ .finished) ∨
      process.liveness ≠ .absent ∧ process.liveness ≠ .finished) :
    ∃ started, process.main = .serving started ∧
      process.system.isDone startupProbe = true ∧
      Opened started.eventId committed := by
  have phase := bracketing.phase
  cases main : process.main with
  | serving started =>
      simp only [Phase, main] at phase
      exact ⟨started, rfl, phase⟩
  | probing task =>
      simp only [Phase, main] at phase
      obtain ⟨_, _, writer, liveness, _⟩ := phase
      rcases working with ⟨present, _⟩ | ⟨present, _⟩
      · exact absurd writer present
      · exact absurd liveness present
  | startingRecording task =>
      simp only [Phase, main] at phase
      obtain ⟨_, writer, liveness, _⟩ := phase
      rcases working with ⟨present, _⟩ | ⟨present, _⟩
      · exact absurd writer present
      · exact absurd liveness present
  | endingRecording started task =>
      simp only [Phase, main] at phase
      obtain ⟨_, writer, liveness, _⟩ := phase
      rcases working with ⟨_, present⟩ | ⟨_, present⟩
      · exact absurd writer present
      · exact absurd liveness present
  | exited window => simp [exited, main] at running

theorem Bracketing.serving (bracketing : process.Bracketing committed)
    (running : process.exited = false)
    (working : (process.writer ≠ .absent ∧ process.writer ≠ .finished) ∨
      process.liveness ≠ .absent ∧ process.liveness ≠ .finished)
    (main : next.main = process.main)
    (kept : process.system.isDone startupProbe = true →
      next.system.isDone startupProbe = true)
    (resting : next.Resting) : next.Bracketing committed := by
  obtain ⟨started, serves, done, opened⟩ := bracketing.serves running working
  refine ⟨fun _ => resting, ?_⟩
  simp only [Phase, main, serves]
  exact ⟨kept done, opened⟩

theorem active_writer (main : next.main = process.main)
    (liveness : next.liveness = process.liveness)
    (done : ∀ task ∈ process.writer.tasks,
      process.system.isDone task = true) :
    ∀ task ∈ process.active,
      task ∈ next.active ∨ process.system.isDone task = true := by
  intro task member
  simp only [active, main, liveness, List.mem_append] at member ⊢
  rcases member with member | member | member
  · exact .inl (.inl member)
  · exact .inr (done task member)
  · exact .inl (.inr (.inr member))

theorem active_liveness (main : next.main = process.main)
    (writer : next.writer = process.writer)
    (done : ∀ task ∈ process.liveness.tasks,
      process.system.isDone task = true) :
    ∀ task ∈ process.active,
      task ∈ next.active ∨ process.system.isDone task = true := by
  intro task member
  simp only [active, main, writer, List.mem_append] at member ⊢
  rcases member with member | member | member
  · exact .inl (.inl member)
  · exact .inl (.inr (.inl member))
  · exact .inr (done task member)

theorem WriterPolled.done (polled : process.WriterPolled) :
    ∀ task ∈ process.writer.tasks, process.system.isDone task = true := by
  intro task member
  rcases polled with idle | ⟨other, draining, writes, done⟩
  · simp [idle] at member
  · rw [writes, WriterState.tasks, List.mem_singleton] at member
    exact member ▸ done

theorem Bracketing.step (bracketing : process.Bracketing committed)
    (running : process.exited = false)
    (sound : process.system.Sound primary)
    (holding : process.system.store.Holding)
    (moves : Moves config process label next out) :
    next.Bracketing (committed ++ written out) := by
  have resting := bracketing.resting running
  have phase := bracketing.phase
  cases moves with
  | @worked inner system seen permitted taken =>
      rw [written, systemSeen_system]
      exact bracketing.worked running sound holding permitted taken
  | @opens task main done =>
      simp only [Phase, main] at phase
      obtain ⟨rfl, one, writer, liveness, probed⟩ := phase
      have free := resting.free sound (by simp [active, main, writer,
        liveness, done])
      rw [written_nil, List.append_nil]
      constructor
      · intro _
        refine resting.spawned .recordingStarted rfl ?_ (by simp [active])
        simp [active, main, writer, liveness, done]
      · refine ⟨System.isDone_spawned _ done, writer, liveness, ?_, committed,
          probed, ?_⟩
        · refine ⟨_, _, _, List.getElem?_concat_length, rfl, rfl, ?_⟩
          intro answer
          rfl
        · have made : (process.system.spawned .recordingStarted).made = [] :=
            System.made_free free
          simp only [made, List.append_nil]
  | @closes started main writer liveness =>
      simp only [Phase, main] at phase
      have free := resting.free sound (by simp [active, main, writer,
        liveness])
      rw [written_nil, List.append_nil]
      constructor
      · intro _
        refine resting.spawned _ rfl ?_ (by simp [active])
        simp [active, main, writer, liveness]
      · refine ⟨System.isDone_spawned _ phase.1, writer, liveness, committed,
          phase.2, ?_⟩
        have made : (process.system.spawned
            (.recordingEnded started.recordingSessionId)).made = [] :=
          System.made_free free
        simp only [made, List.append_nil]
  | flagged =>
      rw [written_nil, List.append_nil]
      exact bracketing.aside rfl rfl rfl rfl
  | handled =>
      rw [written_handled, List.append_nil]
      exact bracketing.aside rfl rfl rfl rfl
  | replayed =>
      rw [written_replayed, List.append_nil]
      exact bracketing.aside rfl rfl rfl rfl
  | @handed label item channel draining polled received =>
      rw [written_handed, List.append_nil]
      refine bracketing.serving running (.inl polled.present) rfl
        (System.isDone_spawned _) ?_
      apply resting.spawned (writeItem item) rfl
      · exact active_writer rfl rfl polled.done
      · simp [active]
  | drained polled _ =>
      rw [written_nil, List.append_nil]
      refine bracketing.serving running (.inl polled.present) rfl id ?_
      exact resting.kept rfl (active_writer rfl rfl polled.done)
  | @rested task writes done =>
      rw [written_nil, List.append_nil]
      have polled : process.WriterPolled := .inr ⟨task, false, writes, done⟩
      refine bracketing.serving running (.inl polled.present) rfl id ?_
      exact resting.kept rfl (active_writer rfl rfl polled.done)
  | ticked idle =>
      rw [written_nil, List.append_nil]
      refine bracketing.serving running (.inr ?_) rfl
        (System.isDone_spawned _) ?_
      · rw [idle]
        exact ⟨nofun, nofun⟩
      · apply resting.spawned .probe rfl
        · refine active_liveness rfl rfl ?_
          simp [idle]
        · simp [active]
  | @slept task probing done =>
      rw [written_nil, List.append_nil]
      refine bracketing.serving running (.inr ?_) rfl id ?_
      · rw [probing]
        exact ⟨nofun, nofun⟩
      · refine resting.kept rfl (active_liveness rfl rfl ?_)
        simp [probing, done]
  | stopped idle =>
      rw [written_nil, List.append_nil]
      refine bracketing.serving running (.inr ?_) rfl id ?_
      · rw [idle]
        exact ⟨nofun, nofun⟩
      · refine resting.kept rfl (active_liveness rfl rfl ?_)
        simp [idle]

/-! Whole runs. -/

variable {ok : Process → ProcessLabel → Prop} {final : Process}
variable {faults : FaultPlan} {db : Db} {seen : List ProcessSeen}

theorem bracketing_of_run (wellFormed : db.WellFormed)
    (run : (machine config).Run ok (boot config.serde.parse faults db) final
      seen) :
    final.Bracketing (written seen) := by
  refine run.invariant (fun process seen => process.Bracketing (written seen))
    ?_ ?_
  · constructor
    · intro _ task inside idle
      have first : task = startupProbe := by
        have one : task < 1 := inside
        simp only [startupProbe]
        omega
      exact absurd (by simp [active, boot, first]) idle
    · exact ⟨rfl, rfl, rfl, rfl, by simp [Probed, written]⟩
  · intro middle next before out label early bracketing _ taken
    obtain ⟨running, moves⟩ := step_moves taken
    rw [written_append]
    exact bracketing.step running (sound_of_boot early)
      (ledger_of_boot early wellFormed).holding moves

/-- The rows of a run between its two markers, and those before the first. -/
structure Bracketed (db : Db) (final : Process) (seen : List ProcessSeen)
    (window : Window) : Prop where
  appended : final.system.store.db.events =
    db.events ++ (written seen).map Commit.row
  started : ∃ mark ∈ written seen, mark.request = .recordingStarted ∧
    mark.row.eventId = window.started
  ended : ∃ last ∈ written seen, (∃ id, last.request = .recordingEnded id) ∧
    last.row.eventId = window.ended
  inside : ∀ commit ∈ written seen, commit.row.source ≠ "__daemon__" →
    commit.owner ≠ startupProbe →
      window.started < commit.row.eventId ∧
        commit.row.eventId < window.ended
  /-- The start-up probe writes before the first marker. -/
  early : ∀ commit ∈ written seen, commit.owner = startupProbe →
    (∀ row ∈ db.events, row.eventId < commit.row.eventId) ∧
      commit.row.eventId < window.started

theorem mark_source {commit : Commit Nat}
    (marks : ∀ envelope precondition,
      commit.request ≠ .event envelope precondition) :
    commit.row.source = "__daemon__" := by
  cases asked : commit.request with
  | event envelope precondition => exact absurd asked (marks _ _)
  | recordingStarted =>
      rw [Commit.row, asked]
      rfl
  | recordingEnded id =>
      rw [Commit.row, asked]
      rfl

theorem bracketed_of_run {window : Window} (wellFormed : db.WellFormed)
    (run : (machine config).Run ok (boot config.serde.parse faults db) final
      seen)
    (exited : final.main = .exited (some window)) :
    Bracketed db final seen window := by
  have phase := (bracketing_of_run wellFormed run).phase
  simp only [Phase, exited] at phase
  obtain ⟨_, last, ⟨probed, mark, middle, rfl, before, ownMark, marks, start,
    after⟩, whole, ownLast, ⟨id, closes⟩, stop⟩ := phase
  have ledger := ledger_of_boot run wellFormed
  have appended : final.system.store.db.events =
      db.events ++ (written seen).map Commit.row := by
    rw [ledger.chained.events]
    exact congrArg (· ++ _) (rebuildMissingProjections_events faults)
  have ascending := (ledger.chained.wellFormed
    (rebuildMissingProjections_wellFormed faults wellFormed)).ascending
  rw [appended, whole, List.append_assoc, List.cons_append, List.map_append,
    List.map_cons, List.map_append, List.map_singleton,
    List.pairwise_append] at ascending
  obtain ⟨_, run', old⟩ := ascending
  rw [List.pairwise_append] at run'
  obtain ⟨_, window', first⟩ := run'
  rw [List.pairwise_cons] at window'
  obtain ⟨opens, window'⟩ := window'
  rw [List.pairwise_append] at window'
  obtain ⟨_, _, shut⟩ := window'
  have cases' : ∀ commit ∈ written seen, commit ∈ probed ∨ commit = mark ∨
      commit ∈ middle ∨ commit = last := by
    intro commit member
    rw [whole] at member
    simpa [or_assoc] using member
  exact {
    appended
    started := ⟨mark, by simp [whole], marks, start⟩
    ended := ⟨last, by simp [whole], ⟨id, closes⟩, stop⟩
    inside := by
      intro commit member user own
      rcases cases' commit member with member | rfl | member | rfl
      · exact absurd (before commit member) own
      · exact absurd (mark_source (by simp [marks])) user
      · constructor
        · rw [← start]
          apply opens
          exact List.mem_append_left _ (List.mem_map_of_mem member)
        · rw [← stop]
          apply shut _ (List.mem_map_of_mem member)
          exact List.mem_singleton_self _
      · exact absurd (mark_source (by simp [closes])) user
    early := by
      intro commit member own
      rcases cases' commit member with member | rfl | member | rfl
      · constructor
        · intro row inside
          apply old row inside
          exact List.mem_append_left _ (List.mem_map_of_mem member)
        · rw [← start]
          exact first _ (List.mem_map_of_mem member) _ List.mem_cons_self
      · exact absurd own ownMark
      · exact absurd own (after commit member)
      · exact absurd own ownLast }

end Process

/-- Successive graceful runs: where they lead, their windows, and the rows that
their start-up probes wrote. -/
inductive Graceful : Db → List Window → List Db.EventRow → Prop
  | empty : Graceful Db.empty [] []
  | run {config : ProcessConfig} {faults : FaultPlan} {db : Db}
      {windows : List Window} {probed : List Db.EventRow} {final : Process}
      {seen : List ProcessSeen} {window : Window}
      (before : Graceful db windows probed)
      (ran : (Process.machine config).Run (fun _ _ => True)
        (Process.boot config.serde.parse faults db) final seen)
      (exited : final.main = .exited (some window)) :
      Graceful final.system.store.db (windows ++ [window])
        (probed ++ ((Process.written seen).filter
          (·.owner = Process.startupProbe)).map Commit.row)

theorem Reached.wellFormed
    {ok : ProcessConfig → Process → ProcessLabel → Prop} {db : Db}
    (reached : Reached ok db) : db.WellFormed := by
  induction reached with
  | empty => exact Db.wellFormed_empty
  | @run config faults db final seen before ran induction =>
      apply (Process.ledger_of_boot ran induction).chained.wellFormed
      exact rebuildMissingProjections_wellFormed faults induction

theorem Graceful.reached {db : Db} {windows : List Window}
    {probed : List Db.EventRow} (graceful : Graceful db windows probed) :
    Reached (fun _ _ _ => True) db := by
  induction graceful with
  | empty => exact .empty
  | run before ran exited induction => exact .run induction ran

theorem Graceful.covers {db : Db} {windows : List Window}
    {probed : List Db.EventRow} (graceful : Graceful db windows probed) :
    ∀ row ∈ db.events, row.source ≠ "__daemon__" → row ∈ probed ∨
      ∃ window ∈ windows, window.started < row.eventId ∧
        row.eventId < window.ended := by
  induction graceful with
  | empty =>
      intro row member
      cases member
  | @run config faults db windows probed final seen window before ran exited
      induction =>
      have bracketed := Process.bracketed_of_run before.reached.wellFormed ran
        exited
      intro row member user
      rw [bracketed.appended, List.mem_append] at member
      rcases member with member | member
      · rcases induction row member user with old | ⟨earlier, inside, bounds⟩
        · exact .inl (List.mem_append_left _ old)
        · exact .inr ⟨earlier, List.mem_append_left _ inside, bounds⟩
      · obtain ⟨commit, written, rfl⟩ := List.mem_map.mp member
        by_cases own : commit.owner = Process.startupProbe
        · refine .inl (List.mem_append_right _ (List.mem_map_of_mem ?_))
          exact List.mem_filter.mpr ⟨written, by simpa using own⟩
        · refine .inr ⟨window, List.mem_append_right _
            (List.mem_singleton_self _), ?_⟩
          exact bracketed.inside commit written user own

/-- The rows of a run stand inside its window, but for those of the start-up
probe, which stand right before it; and so the windows of successive graceful
runs cover the log, but for the rows of their start-up probes. -/
theorem recording_windows_bracket_runs {config : ProcessConfig}
    {faults : FaultPlan} {db : Db} {final : Process}
    {seen : List ProcessSeen} {window : Window}
    (reached : Reached (fun _ _ _ => True) db)
    (ran : (Process.machine config).Run (fun _ _ => True)
      (Process.boot config.serde.parse faults db) final seen)
    (exited : final.main = .exited (some window)) :
    Process.Bracketed db final seen window ∧
      ∀ db windows probed, Graceful db windows probed →
        ∀ row ∈ db.events, row.source ≠ "__daemon__" → row ∈ probed ∨
          ∃ window ∈ windows, window.started < row.eventId ∧
            row.eventId < window.ended :=
  ⟨Process.bracketed_of_run reached.wellFormed ran exited,
    fun _ _ _ graceful => graceful.covers⟩

/-! A run that ends in order, and one after a crash that left a session without
a pid behind. -/

namespace Process

def window? (process : Process) : Option Window :=
  match process.main with
  | .exited window => window
  | _ => none

theorem exited_of_window {final : Process} {window : Window}
    (left : final.window? = some window) :
    final.main = .exited (some window) := by
  unfold window? at left
  split at left
  · rename_i main
    rw [main, left]
  · cases left

def leavesSession : List ProcessLabel :=
  startUp ++ [.replay (Utf8.encode "b\n"), .receive] ++ writeTask 2 2000

def leftDb : Db :=
  match (machine simpleProcess).exec
      (boot simpleSerde.parse FaultPlan.none Db.empty) leavesSession with
  | some (final, _) => final.system.store.db
  | none => Db.empty

theorem leftDb_reached : Reached (fun _ _ _ => True) leftDb := by
  have ⟨final, seen, run, checked⟩ := Machine.exec_check
    ((machine simpleProcess).execMeets_true
      (boot simpleSerde.parse FaultPlan.none Db.empty) leavesSession)
    (fun result : Process × List ProcessSeen =>
      decide (result.1.system.store.db = leftDb))
    (by decide)
  rw [← of_decide_eq_true checked]
  exact Reached.run Reached.empty run

/-- The start-up probe ends the session; nothing else happens before the end. -/
def endsLeftSession : List ProcessLabel :=
  [.work (.select 0), .work (.clock 0 (.ok 3000)),
    .work (.cancelled 0 false)] ++ writeTask 0 3001 ++ [.main] ++
    writeTask 1 3002 ++
    [.requestShutdown, .observeShutdown, .stopLiveness, .main] ++
    writeTask 2 3003

end Process

theorem recording_windows_bracket_runs_drainAndExit :
    ∃ final seen window, (window = Window.mk 1 4 ∧
        ((Process.written seen).filter (·.isEvent)).length = 2) ∧
      Process.Bracketed Db.empty final seen window ∧
      ∀ db windows probed, Graceful db windows probed →
        ∀ row ∈ db.events, row.source ≠ "__daemon__" → row ∈ probed ∨
          ∃ window ∈ windows, window.started < row.eventId ∧
            row.eventId < window.ended := by
  have ⟨final, seen, run, checked⟩ := Machine.exec_check
    ((Process.machine Process.simpleProcess).execMeets_true
      (Process.boot Process.simpleSerde.parse FaultPlan.none Db.empty)
      (Process.startUp ++ Process.twoAccepted ++ Process.drainAndExit))
    (fun result : Process × List ProcessSeen =>
      decide (result.1.window? = some ⟨1, 4⟩ ∧
        ((Process.written result.2).filter (·.isEvent)).length = 2))
    (by decide)
  obtain ⟨left, two⟩ := of_decide_eq_true checked
  exact ⟨final, seen, ⟨1, 4⟩, ⟨rfl, two⟩,
    recording_windows_bracket_runs Reached.empty run
      (Process.exited_of_window left)⟩

/-- The row that the start-up probe writes is a user's, and is outside. -/
theorem startup_probe_outside_window :
    ∃ db final seen window commit, Reached (fun _ _ _ => True) db ∧
      (Process.machine Process.simpleProcess).Run (fun _ _ => True)
        (Process.boot Process.simpleSerde.parse FaultPlan.none db) final
        seen ∧
      final.main = .exited (some window) ∧ commit ∈ Process.written seen ∧
      commit.row.source ≠ "__daemon__" ∧
      commit.row ∈ final.system.store.db.events ∧
      commit.row.eventId < window.started := by
  have ⟨final, seen, run, checked⟩ := Machine.exec_check
    ((Process.machine Process.simpleProcess).execMeets_true
      (Process.boot Process.simpleSerde.parse FaultPlan.none Process.leftDb)
      Process.endsLeftSession)
    (fun result : Process × List ProcessSeen =>
      decide (result.1.window? = some ⟨4, 5⟩ ∧
        ∃ commit ∈ Process.written result.2,
          commit.row.source ≠ "__daemon__" ∧
          commit.row ∈ result.1.system.store.db.events ∧
          commit.row.eventId < 4))
    (by decide)
  obtain ⟨left, commit, member, user, inside, early⟩ :=
    of_decide_eq_true checked
  exact ⟨Process.leftDb, final, seen, ⟨4, 5⟩, commit, Process.leftDb_reached,
    run, Process.exited_of_window left, member, user, inside, early⟩

end Bowerbird.Daemon
