import Bowerbird.Daemon.RecordingWindow

namespace Bowerbird.Daemon

open Protocol Foundation Projection Ingest Api

/-! Who writes a run's recording markers: the main task alone, once each, and
everything else is an event. -/

namespace Job

def marks : Job → Bool
  | .recordingStarted | .recordingEnded _ => true
  | .hook _ | .replay _ | .probe => false

/-- What a job asks of the store. -/
def Asks : Job → WriteRequest → Prop
  | .hook _, request | .replay _, request =>
      ∃ envelope precondition, request = .event envelope precondition
  | .probe, request =>
      ∃ envelope precondition, request = .event envelope (some precondition)
  | .recordingStarted, request => request = .recordingStarted
  | .recordingEnded id, request => request = .recordingEnded id

end Job

/-- Watches the writes alone, and remembers nothing. -/
def askMonitor (asks : WriteRequest → Prop) : Program.Monitor Op Op.Answer where
  Memory := Unit
  allowed _ op := ∀ request, op.request? = some request → asks request
  remember _ _ _ := ()

def AsksOnly (asks : WriteRequest → Prop) {Result : Type}
    (program : Async Result) : Prop :=
  program.Obeys (askMonitor asks) (fun _ _ => True) ()

section AsksOnly

variable {asks : WriteRequest → Prop} {Result Result' : Type}

theorem AsksOnly.bind {program : Async Result}
    {next : Result → Async Result'} (first : AsksOnly asks program)
    (rest : ∀ result, AsksOnly asks (next result)) :
    AsksOnly asks (program >>= next) :=
  Program.Obeys.bind _ (Program.Obeys.mono _ (fun _ result _ => rest result)
    first)

/-- A question that writes nothing. -/
theorem AsksOnly.query {op : Op} {next : op.Answer → Async Result}
    (reads : op.request? = none) (rest : ∀ answer, AsksOnly asks (next answer)) :
    AsksOnly asks (Program.ask op next) := by
  refine Program.Obeys.ask _ ?_ rest
  intro request wanted
  rw [reads] at wanted
  cases wanted

theorem AsksOnly.writes {envelope : EventEnvelope}
    {precondition : Option WritePrecondition}
    {next : Except Error (Option Int) → Async Result}
    (allowed : asks (.event envelope precondition))
    (rest : ∀ answer, AsksOnly asks (next answer)) :
    AsksOnly asks (Program.ask (Op.writeInner envelope precondition) next) := by
  refine Program.Obeys.ask _ ?_ rest
  intro request wanted
  cases wanted
  exact allowed

theorem probeReason_asks (lastPid : Option Nat) :
    AsksOnly asks (probeReason lastPid) := by
  cases lastPid with
  | none => exact trivial
  | some pid =>
      refine .bind ?_ fun alive => ?_
      · unfold isPidAlive
        split
        · refine .query rfl fun answer => ?_
          cases answer <;> exact trivial
        · exact trivial
      · cases alive <;> exact trivial

section Scans

variable (conditional : ∀ envelope precondition,
  asks (.event envelope (some precondition)))
include conditional

theorem supersedeRow_asks (successor : SessionKey) (pid : Nat)
    (observedAtMs : Int) (row : Db.ProjectionRow) :
    AsksOnly asks (supersedeRow successor pid observedAtMs row) := by
  unfold supersedeRow
  split
  · exact trivial
  · split
    · exact trivial
    · split
      · exact trivial
      · exact .writes (conditional _ _) fun _ => trivial

theorem supersedePredecessors_asks (successor : SessionKey) (pid : Nat) :
    AsksOnly asks (supersedePredecessors successor pid) := by
  refine .query rfl fun answer => ?_
  cases answer with
  | error error => exact trivial
  | ok rows =>
      refine .query rfl fun answer => ?_
      cases answer with
      | error error => exact trivial
      | ok observedAtMs =>
          refine Program.Obeys.mono _ (fun _ _ _ => trivial)
            (Program.Obeys.each _ (fun _ => True) ?_ trivial)
          intro row _ _ _
          exact supersedeRow_asks conditional successor pid observedAtMs row

theorem probeRow_asks (observedAtMs : Int) (row : Db.ProjectionRow)
    (report : ProbeReport) :
    AsksOnly asks (probeRow observedAtMs row report) := by
  unfold probeRow
  split
  · exact trivial
  · split
    · exact trivial
    · refine .bind (probeReason_asks _) fun reason => ?_
      cases reason with
      | none => exact trivial
      | some reason => exact .writes (conditional _ _) fun _ => trivial

theorem probeRows_asks (observedAtMs : Int) (rows : List Db.ProjectionRow)
    (report : ProbeReport) :
    AsksOnly asks (probeRows observedAtMs rows report) := by
  induction rows generalizing report with
  | nil => exact trivial
  | cons row rest induction =>
      refine .query rfl fun cancelled => ?_
      cases cancelled with
      | true => exact trivial
      | false =>
          change AsksOnly asks (probeRow observedAtMs row report >>=
            fun report => probeRows observedAtMs rest report)
          exact .bind (probeRow_asks conditional _ _ _) induction

theorem probeOnce_asks : AsksOnly asks probeOnce := by
  refine .query rfl fun answer => ?_
  cases answer with
  | error error => exact trivial
  | ok rows =>
      refine .query rfl fun answer => ?_
      cases answer with
      | error error => exact trivial
      | ok observedAtMs =>
          change AsksOnly asks
            (probeRows observedAtMs rows ProbeReport.default >>=
              fun report => pure (Except.ok report))
          exact .bind (probeRows_asks conditional _ _ _) fun _ => trivial

end Scans

theorem writeCommitted_asks {envelope : EventEnvelope}
    (allowed : asks (.event envelope none)) :
    AsksOnly asks (writeCommitted envelope) := by
  refine .writes allowed fun answer => ?_
  rcases answer with error | _ | eventId <;> exact trivial

end AsksOnly

theorem Job.task_asks (job : Job) : AsksOnly job.Asks job.task := by
  cases job with
  | hook envelope =>
      refine .bind ?_ fun _ => trivial
      refine .bind (writeCommitted_asks ⟨_, _, rfl⟩) fun answer => ?_
      rcases answer with error | eventId
      · exact trivial
      · simp only
        split
        · exact trivial
        · split
          · exact trivial
          · refine .bind (supersedePredecessors_asks ?_ _ _) fun _ => trivial
            exact fun _ _ => ⟨_, _, rfl⟩
  | replay envelope =>
      exact .bind (writeCommitted_asks ⟨_, _, rfl⟩) fun _ => trivial
  | probe =>
      exact .bind (probeOnce_asks fun _ _ => ⟨_, _, rfl⟩) fun _ => trivial
  | recordingStarted =>
      refine Program.Obeys.ask _ ?_ fun _ => trivial
      intro request wanted
      exact (Option.some.inj wanted).symm
  | recordingEnded id =>
      refine Program.Obeys.ask _ ?_ fun _ => trivial
      intro request wanted
      exact (Option.some.inj wanted).symm

namespace System

def jobs (system : System) : List Job :=
  system.tasks.map (·.job)

/-- Every task asks only for the writes of its job. -/
def Keeps (system : System) : Prop :=
  ∀ state ∈ system.tasks, AsksOnly state.job.Asks state.task

variable {system next : System} {label : SystemLabel} {out : List SystemSeen}

@[simp] theorem jobs_spawned (job : Job) :
    (system.spawned job).jobs = system.jobs ++ [job] := by
  simp [jobs, spawned]

theorem Keeps.spawned (keeps : system.Keeps) (job : Job) :
    (system.spawned job).Keeps := by
  intro state member
  rcases List.mem_append.mp member with member | member
  · exact keeps state member
  · rw [List.mem_singleton] at member
    subst member
    exact job.task_asks

theorem step_jobs (taken : system.step label = some (next, out))
    (old : ∀ job, label ≠ .spawn job) : next.jobs = system.jobs := by
  rcases step_tasks taken with ⟨job, spawns, _⟩ | same |
    ⟨_, _, middle, replied, same⟩
  · exact absurd spawns (old job)
  · rw [jobs, same]
    rfl
  · obtain ⟨state, _, _, _, found, _, _, rfl⟩ := reply_cases replied
    obtain ⟨inside, here⟩ := List.getElem?_eq_some_iff.mp found
    rw [jobs, same, List.map_set, ← here]
    have room := inside
    rw [← List.length_map TaskState.job] at room
    have own := List.set_getElem_self room
    rw [List.getElem_map] at own
    exact own

theorem Keeps.step (keeps : system.Keeps)
    (taken : system.step label = some (next, out)) : next.Keeps := by
  rcases step_tasks taken with ⟨job, _, rfl⟩ | same |
    ⟨_, _, middle, replied, same⟩
  · exact keeps.spawned job
  · rw [Keeps, same]
    exact keeps
  · obtain ⟨state, op, resume, answer, found, waiting, _, rfl⟩ :=
      reply_cases replied
    intro other member
    rw [same] at member
    rcases List.mem_or_eq_of_mem_set member with member | rfl
    · exact keeps other member
    · have asks := keeps state (List.mem_of_getElem? found)
      rw [waiting] at asks
      exact asks.2 answer

/-- The write in flight is one that its owner's job asks for. -/
theorem Keeps.flight (keeps : system.Keeps)
    {primary : EventEnvelope → Prop} (sound : system.Sound primary)
    {flight : InFlight Nat} (busy : system.store.inFlight = some flight) :
    ∃ job, system.jobs[flight.owner]? = some job ∧
      job.Asks flight.request := by
  obtain ⟨state, op, resume, found, waiting, asked⟩ :=
    request?_cases (sound.flight flight busy)
  have asks := keeps state (List.mem_of_getElem? found)
  rw [waiting] at asks
  refine ⟨state.job, ?_, asks.1 flight.request asked⟩
  rw [jobs, List.getElem?_map, found]
  rfl

/-- What has been made is the write in flight, once it has run. -/
theorem made_cases (system : System) :
    system.made = [] ∨ ∃ flight commit,
      system.store.inFlight = some flight ∧ system.made = [commit] ∧
        commit.owner = flight.owner ∧ commit.request = flight.request := by
  unfold made
  split
  · exact .inl rfl
  · rename_i flight busy
    split
    · exact .inl rfl
    · split
      · exact .inr ⟨flight, _, busy, rfl, rfl, rfl⟩
      · exact .inl rfl

theorem settles_silent {task : Nat} {answer : Option Outcome}
    (taken : system.step label = some (next, out))
    (settled : system.settles task label = some answer) :
    commits (out.flatMap storeSeen) = [] := by
  cases label with
  | finish => exact finish_silent taken
  | refuse other error =>
      obtain ⟨_, _, rfl⟩ := refuse_cases taken
      rfl
  | spawn | begin | transact | select | clock | kill | cancelled =>
      cases settled

end System

/-- The marker that the main task waits for. -/
def MainState.marker : MainState → Option (Nat × Job)
  | startingRecording task => some (task, .recordingStarted)
  | endingRecording started task =>
      some (task, .recordingEnded started.recordingSessionId)
  | probing _ | serving _ | exited _ => none

namespace Process

def Plain (committed : List (Commit Nat)) : Prop :=
  ∀ commit ∈ committed, ∃ envelope precondition,
    commit.request = .event envelope precondition

/-- The start-up probe's events, one marker for `recordingSessionId`, and
events. -/
def Marked (recordingSessionId : Int) (committed : List (Commit Nat)) : Prop :=
  ∃ probed mark middle, committed = probed ++ mark :: middle ∧
    Plain probed ∧ Probed probed ∧ mark.request = .recordingStarted ∧
    mark.before.recordingSeq + 1 = recordingSessionId ∧ Plain middle

/-- What a run cut off anywhere has committed. -/
inductive Shape (committed : List (Commit Nat)) : Prop
  | unmarked (plain : Plain committed)
  | opened (recordingSessionId : Int)
      (marked : Marked recordingSessionId committed)
  | closed (recordingSessionId : Int) (during : List (Commit Nat))
      (last : Commit Nat) (marked : Marked recordingSessionId during)
      (whole : committed = during ++ [last])
      (closes : last.request = .recordingEnded recordingSessionId)

def Markers (process : Process) (committed : List (Commit Nat)) : Prop :=
  match process.main with
  | .probing _ => Plain committed
  | .startingRecording _ => ∃ probed, Plain probed ∧ Probed probed ∧
      committed = probed ++ process.system.made
  | .serving started => Marked started.recordingSessionId committed
  | .endingRecording started _ => ∃ during,
      Marked started.recordingSessionId during ∧
      committed = during ++ process.system.made
  | .exited _ => Shape committed

structure Marking (process : Process) (committed : List (Commit Nat)) :
    Prop where
  keeps : process.system.Keeps
  probe : process.system.jobs[startupProbe]? = some .probe
  probes : ∀ commit ∈ committed, commit.owner = startupProbe →
    Job.probe.Asks commit.request
  /-- A task that is still to write a marker is the main task's. -/
  alone : process.exited = false → ∀ task job,
    process.system.jobs[task]? = some job → job.marks = true →
      process.system.isDone task = true ∨
        process.main.marker = some (task, job)
  waits : ∀ task job, process.main.marker = some (task, job) →
    process.system.jobs[task]? = some job
  markers : process.Markers committed

theorem Plain.append {first second : List (Commit Nat)} (before : Plain first)
    (after : Plain second) : Plain (first ++ second) := by
  intro commit member
  rcases List.mem_append.mp member with member | member
  · exact before commit member
  · exact after commit member

theorem Marked.append {id : Int} {committed more : List (Commit Nat)}
    (marked : Marked id committed) (plain : Plain more) :
    Marked id (committed ++ more) := by
  obtain ⟨probed, mark, middle, rfl, early, own, marks, named, late⟩ := marked
  exact ⟨probed, mark, middle ++ more, by simp, early, own, marks, named,
    late.append plain⟩

section Marking

variable {config : ProcessConfig} {process next : Process}
variable {label : ProcessLabel} {out : List ProcessSeen}
variable {committed : List (Commit Nat)} {inner : SystemLabel}
variable {system : System} {seen : List SystemSeen}
variable {primary : EventEnvelope → Prop}

/-- Whoever but the main task writes, writes an event. -/
theorem Marking.plain (marking : process.Marking committed)
    (running : process.exited = false) (sound : process.system.Sound primary)
    (taken : process.system.step inner = some (system, seen))
    (idle : process.main.marker = none) :
    Plain (commits (seen.flatMap System.storeSeen)) := by
  intro commit member
  obtain ⟨flight, busy, _, asked⟩ := System.step_commits taken commit member
  obtain ⟨job, found, asks⟩ := marking.keeps.flight sound busy
  have waiting := (sound.waits busy).2
  rw [asked]
  cases marks : job.marks with
  | true =>
      rcases marking.alone running _ job found marks with done | main
      · rw [done] at waiting
        cases waiting
      · rw [idle] at main
        cases main
  | false =>
      cases job with
      | hook envelope => exact asks
      | replay envelope => exact asks
      | probe =>
          obtain ⟨envelope, precondition, same⟩ := asks
          exact ⟨envelope, some precondition, same⟩
      | recordingStarted => cases marks
      | recordingEnded id => cases marks

theorem Marking.probed (marking : process.Marking committed)
    (sound : process.system.Sound primary)
    (taken : process.system.step inner = some (system, seen)) :
    ∀ commit ∈ committed ++ commits (seen.flatMap System.storeSeen),
      commit.owner = startupProbe → Job.probe.Asks commit.request := by
  intro commit member own
  rcases List.mem_append.mp member with member | member
  · exact marking.probes commit member own
  · obtain ⟨flight, busy, same, asked⟩ :=
      System.step_commits taken commit member
    obtain ⟨job, found, asks⟩ := marking.keeps.flight sound busy
    rw [← same, own, marking.probe] at found
    cases found
    rw [asked]
    exact asks

/-- What the main task's marker has come to, while nobody else writes. -/
theorem Marking.made (marking : process.Marking committed)
    (sound : process.system.Sound primary) (resting : process.Resting)
    {task : Nat} {job : Job}
    (waits : process.main.marker = some (task, job))
    (alone : process.active = [task]) :
    process.system.made = [] ∨
      ∃ commit, process.system.made = [commit] ∧ job.Asks commit.request := by
  rcases process.system.made_cases with none | ⟨flight, commit, busy, made,
    _, asked⟩
  · exact .inl none
  · have own := resting.waits sound busy
    rw [alone, List.mem_singleton] at own
    obtain ⟨other, found, asks⟩ := marking.keeps.flight sound busy
    rw [own, marking.waits task job waits] at found
    cases found
    exact .inr ⟨commit, made, asked ▸ asks⟩

/-- The writing side has moved on, the main task has not. -/
theorem Marking.stays (marking : process.Marking committed)
    (running : process.exited = false) (sound : process.system.Sound primary)
    (permitted : process.permits inner = true)
    (taken : process.system.step inner = some (system, seen))
    (markers : ({ process with system } : Process).Markers
      (committed ++ commits (seen.flatMap System.storeSeen))) :
    ({ process with system } : Process).Marking
      (committed ++ commits (seen.flatMap System.storeSeen)) := by
  have jobs : system.jobs = process.system.jobs := System.step_jobs taken (by
    rintro job rfl
    cases permitted)
  exact {
    keeps := marking.keeps.step taken
    probe := jobs ▸ marking.probe
    probes := marking.probed sound taken
    alone := by
      intro _ task job found marks
      rw [jobs] at found
      rcases marking.alone running task job found marks with done | main
      · exact .inl (System.step_isDone taken done)
      · exact .inr main
    waits := by
      intro task job main
      rw [jobs]
      exact marking.waits task job main
    markers }

/-- The main task's marker is answered. -/
theorem Marking.turns (marking : process.Marking committed)
    (running : process.exited = false) (sound : process.system.Sound primary)
    (permitted : process.permits inner = true)
    (taken : process.system.step inner = some (next.system, seen))
    {task : Nat} {job : Job}
    (waits : process.main.marker = some (task, job))
    (done : next.exited = false → next.system.isDone task = true)
    (idle : next.main.marker = none)
    (markers : next.Markers
      (committed ++ commits (seen.flatMap System.storeSeen))) :
    next.Marking (committed ++ commits (seen.flatMap System.storeSeen)) := by
  have jobs : next.system.jobs = process.system.jobs :=
    System.step_jobs taken (by
      rintro job rfl
      cases permitted)
  exact {
    keeps := marking.keeps.step taken
    probe := jobs ▸ marking.probe
    probes := marking.probed sound taken
    alone := by
      intro serving other job found marks
      rw [jobs] at found
      rcases marking.alone running other job found marks with finished | main
      · exact .inl (System.step_isDone taken finished)
      · rw [waits] at main
        cases main
        exact .inl (done serving)
    waits := by
      intro other job main
      rw [idle] at main
      cases main
    markers }

/-- A main task that waited to mark the start, and leaves. -/
theorem shape_starting {probed : List (Commit Nat)} (early : Plain probed)
    (own : Probed probed)
    (made : process.system.made = [] ∨ ∃ commit,
      process.system.made = [commit] ∧
        Job.recordingStarted.Asks commit.request) :
    Shape (probed ++ process.system.made) := by
  rcases made with none | ⟨mark, made, marks⟩
  · rw [none, List.append_nil]
    exact .unmarked early
  · rw [made]
    exact .opened _ ⟨probed, mark, [], rfl, early, own, marks, rfl, by
      simp [Plain]⟩

/-- A main task that waited to mark the end, and leaves. -/
theorem shape_ending {id : Int} {during : List (Commit Nat)}
    (marked : Marked id during)
    (made : process.system.made = [] ∨ ∃ commit,
      process.system.made = [commit] ∧
        (Job.recordingEnded id).Asks commit.request) :
    Shape (during ++ process.system.made) := by
  rcases made with none | ⟨last, made, closes⟩
  · rw [none, List.append_nil]
    exact .opened id marked
  · rw [made]
    exact .closed id during last marked rfl closes

theorem started_id {commit : Commit Nat} {eventId recordingSessionId : Int}
    (marks : commit.request = .recordingStarted)
    (outcome : (commit.request.outcome commit.nowMs commit.before).1 =
      .ok (.recordingStarted eventId recordingSessionId)) :
    commit.before.recordingSeq + 1 = recordingSessionId := by
  rw [marks] at outcome
  cases outcome
  rfl

theorem Marking.worked (marking : process.Marking committed)
    (bracketing : process.Bracketing committed)
    (running : process.exited = false)
    (sound : process.system.Sound primary)
    (holding : process.system.store.Holding)
    (permitted : process.permits inner = true)
    (taken : process.system.step inner = some (system, seen)) :
    (process.afterWork config inner system).Marking
      (committed ++ commits (seen.flatMap System.storeSeen)) := by
  have resting := bracketing.resting running
  have phase := bracketing.phase
  have markers := marking.markers
  cases main : process.main with
  | probing task =>
      have same : process.afterWork config inner system =
          { process with system } := by
        simp [afterWork, main]
      have plain := marking.plain running sound taken (by
        simp [main, MainState.marker])
      simp only [Markers, main] at markers
      rw [same]
      refine marking.stays running sound permitted taken ?_
      simp only [Markers, main]
      exact markers.append plain
  | serving started =>
      have same : process.afterWork config inner system =
          { process with system } := by
        simp [afterWork, main]
      have plain := marking.plain running sound taken (by
        simp [main, MainState.marker])
      simp only [Markers, main] at markers
      rw [same]
      refine marking.stays running sound permitted taken ?_
      simp only [Markers, main]
      exact markers.append plain
  | startingRecording task =>
      simp only [Phase, main] at phase
      obtain ⟨_, writer, liveness, single, _⟩ := phase
      have alone : process.active = [task] := by
        simp [active, main, writer, liveness]
      have waits : process.main.marker = some (task, .recordingStarted) := by
        rw [main]
        rfl
      have made := marking.made sound resting waits alone
      simp only [Markers, main] at markers
      obtain ⟨probed, early, own, rfl⟩ := markers
      rcases single.step taken with ⟨unsettled, _⟩ | ⟨settled, finished⟩
      · have same : process.afterWork config inner system =
            { process with system } := by
          simp [afterWork, main, unsettled]
        rw [same]
        refine marking.stays running sound permitted taken ?_
        simp only [Markers, main]
        refine ⟨probed, early, own, ?_⟩
        rw [List.append_assoc, System.step_made taken
          (resting.marking sound alone taken unsettled) holding]
      · obtain ⟨answer, settled⟩ := Option.isSome_iff_exists.mp settled
        have silent := System.settles_silent taken settled
        have leaves (left : (process.afterWork config inner system).main =
            .exited none) : (process.afterWork config inner system).Marking
              (probed ++ process.system.made ++
                commits (seen.flatMap System.storeSeen)) := by
          refine marking.turns running sound permitted
            (by rw [afterWork_system]; exact taken) waits ?_ ?_ ?_
          · intro stays
            simp [exited, left] at stays
          · rw [left]
            rfl
          · simp only [Markers, left]
            rw [silent, List.append_nil]
            exact shape_starting early own made
        cases answer with
        | none => exact leaves (by simp [afterWork, main, settled])
        | some outcome =>
            cases outcome with
            | recordingStarted eventId recordingSessionId =>
                obtain ⟨_, mark, makes, _, outcome⟩ :=
                  System.settles_made taken holding settled rfl
                obtain ⟨marks, _⟩ := started_mark outcome
                refine marking.turns running sound permitted
                  (by rw [afterWork_system]; exact taken) waits ?_ ?_ ?_
                · intro _
                  rw [afterWork_system]
                  exact finished
                · simp [afterWork, main, settled, MainState.marker]
                · simp only [Markers, afterWork, main, settled]
                  rw [silent, List.append_nil, makes]
                  exact ⟨probed, mark, [], rfl, early, own, marks,
                    started_id marks outcome, by simp [Plain]⟩
            | written | skipped | recordingEnded =>
                exact leaves (by simp [afterWork, main, settled])
  | endingRecording started task =>
      simp only [Phase, main] at phase
      obtain ⟨_, writer, liveness, _⟩ := phase
      have alone : process.active = [task] := by
        simp [active, main, writer, liveness]
      have waits : process.main.marker =
          some (task, .recordingEnded started.recordingSessionId) := by
        rw [main]
        rfl
      have made := marking.made sound resting waits alone
      simp only [Markers, main] at markers
      obtain ⟨during, marked, rfl⟩ := markers
      cases settled : process.system.settles task inner with
      | none =>
          have same : process.afterWork config inner system =
              { process with system } := by
            simp [afterWork, main, settled]
          rw [same]
          refine marking.stays running sound permitted taken ?_
          simp only [Markers, main]
          refine ⟨during, marked, ?_⟩
          rw [List.append_assoc, System.step_made taken
            (resting.marking sound alone taken settled) holding]
      | some answer =>
          have silent := System.settles_silent taken settled
          have left : ∃ window,
              (process.afterWork config inner system).main =
                .exited window := by
            rcases answer with _ | outcome
            · exact ⟨none, by simp [afterWork, main, settled]⟩
            · cases outcome with
              | recordingEnded eventId =>
                  exact ⟨some ⟨started.eventId, eventId⟩, by
                    simp [afterWork, main, settled]⟩
              | written | skipped | recordingStarted =>
                  exact ⟨none, by simp [afterWork, main, settled]⟩
          obtain ⟨window, left⟩ := left
          refine marking.turns running sound permitted
            (by rw [afterWork_system]; exact taken) waits ?_ ?_ ?_
          · intro stays
            simp [exited, left] at stays
          · rw [left]
            rfl
          · simp only [Markers, left]
            rw [silent, List.append_nil]
            exact shape_ending marked made
  | exited window => simp [exited, main] at running

/-- A step that leaves the writing side and the main task as they are. -/
theorem Marking.aside (marking : process.Marking committed)
    (system : next.system = process.system) (main : next.main = process.main) :
    next.Marking committed := by
  have markers := marking.markers
  constructor
  · rw [system]
    exact marking.keeps
  · rw [system]
    exact marking.probe
  · exact marking.probes
  · intro running
    have before : process.exited = false := by
      simpa only [exited, main] using running
    rw [system, main]
    exact marking.alone before
  · rw [system, main]
    exact marking.waits
  · simp only [Markers, system, main] at markers ⊢
    exact markers

/-- A new task is the main task's, or writes no marker. -/
theorem Marking.spawned (marking : process.Marking committed)
    (running : process.exited = false) (job : Job)
    (system : next.system = process.system.spawned job)
    (marker : next.main.marker = process.main.marker ∧ job.marks = false ∨
      process.main.marker = none ∧
        next.main.marker = some (process.system.tasks.length, job))
    (markers : next.Markers committed) : next.Marking committed := by
  have length : process.system.jobs.length = process.system.tasks.length :=
    List.length_map _
  have old {task : Nat} {other : Job}
      (found : process.system.jobs[task]? = some other) :
      (process.system.jobs ++ [job])[task]? = some other := by
    rw [List.getElem?_append_left (List.getElem?_eq_some_iff.mp found).1]
    exact found
  constructor
  · rw [system]
    exact marking.keeps.spawned job
  · rw [system, System.jobs_spawned]
    exact old marking.probe
  · exact marking.probes
  · intro _ task other found marks
    rw [system, System.jobs_spawned] at found
    by_cases inside : task < process.system.jobs.length
    · rw [List.getElem?_append_left inside] at found
      rcases marking.alone running task other found marks with done | main
      · rw [system]
        exact .inl (System.isDone_spawned job done)
      · rcases marker with ⟨same, _⟩ | ⟨none, _⟩
        · exact .inr (same.trans main)
        · rw [none] at main
          cases main
    · have last : task = process.system.jobs.length := by
        have bound := (List.getElem?_eq_some_iff.mp found).1
        rw [List.length_append, List.length_singleton] at bound
        omega
      rw [last, List.getElem?_concat_length] at found
      cases found
      rcases marker with ⟨_, plain⟩ | ⟨_, waits⟩
      · rw [plain] at marks
        cases marks
      · rw [last, length]
        exact .inr waits
  · intro task other main
    rw [system, System.jobs_spawned]
    rcases marker with ⟨same, _⟩ | ⟨_, waits⟩
    · exact old (marking.waits task other (same.symm.trans main))
    · rw [waits] at main
      cases main
      rw [← length, List.getElem?_concat_length]
  · exact markers

theorem Marking.step (marking : process.Marking committed)
    (bracketing : process.Bracketing committed)
    (running : process.exited = false)
    (sound : process.system.Sound primary)
    (holding : process.system.store.Holding)
    (moves : Moves config process label next out) :
    next.Marking (committed ++ written out) := by
  have phase := bracketing.phase
  have markers := marking.markers
  have resting := bracketing.resting running
  cases moves with
  | @worked inner system seen permitted taken =>
      rw [written, systemSeen_system]
      exact marking.worked bracketing running sound holding permitted taken
  | @opens task main done =>
      simp only [Phase, main] at phase
      obtain ⟨rfl, _, writer, liveness, probed⟩ := phase
      have free := resting.free sound (by simp [active, main, writer,
        liveness, done])
      have made : (process.system.spawned .recordingStarted).made = [] :=
        System.made_free free
      simp only [Markers, main] at markers
      rw [written_nil, List.append_nil]
      refine marking.spawned running .recordingStarted rfl (.inr ⟨?_, rfl⟩) ?_
      · rw [main]
        rfl
      · exact ⟨committed, markers, probed, by simp only [made, List.append_nil]⟩
  | @closes started main writer liveness =>
      have free := resting.free sound (by simp [active, main, writer,
        liveness])
      have made : (process.system.spawned
          (.recordingEnded started.recordingSessionId)).made = [] :=
        System.made_free free
      simp only [Markers, main] at markers
      rw [written_nil, List.append_nil]
      refine marking.spawned running _ rfl (.inr ⟨?_, rfl⟩) ?_
      · rw [main]
        rfl
      · exact ⟨committed, markers, by simp only [made, List.append_nil]⟩
  | @handed label item channel draining polled received =>
      rw [written_handed, List.append_nil]
      refine marking.spawned running (writeItem item) rfl (.inl ⟨rfl, ?_⟩)
        markers
      unfold writeItem
      split <;> rfl
  | ticked idle =>
      rw [written_nil, List.append_nil]
      exact marking.spawned running .probe rfl (.inl ⟨rfl, rfl⟩) markers
  | handled =>
      rw [written_handled, List.append_nil]
      exact marking.aside rfl rfl
  | replayed =>
      rw [written_replayed, List.append_nil]
      exact marking.aside rfl rfl
  | flagged | drained | rested | slept | stopped =>
      rw [written_nil, List.append_nil]
      exact marking.aside rfl rfl

end Marking

variable {config : ProcessConfig} {ok : Process → ProcessLabel → Prop}
variable {final : Process} {faults : FaultPlan} {db : Db}
variable {seen : List ProcessSeen}

theorem marking_of_run (wellFormed : db.WellFormed)
    (run : (machine config).Run ok (boot config.serde.parse faults db) final
      seen) :
    final.Marking (written seen) := by
  refine run.invariant (fun process seen => process.Marking (written seen))
    ?_ ?_
  · exact {
      keeps := by
        intro state member
        rw [List.mem_singleton.mp member]
        exact Job.task_asks .probe
      probe := rfl
      probes := by simp [written_nil]
      alone := by
        intro _ task job found marks
        cases task with
        | zero =>
            cases found
            cases marks
        | succ task => cases found
      waits := by
        intro task job main
        cases main
      markers := by
        intro commit member
        cases member }
  · intro middle next before out label early marking _ taken
    obtain ⟨running, moves⟩ := step_moves taken
    rw [written_append]
    exact marking.step (bracketing_of_run wellFormed early) running
      (sound_of_boot early) (ledger_of_boot early wellFormed).holding moves

/-- Whatever a run has committed has the shape of one that was cut off. -/
theorem Marking.shape {process : Process} {committed : List (Commit Nat)}
    (marking : process.Marking committed)
    (bracketing : process.Bracketing committed)
    (sound : process.system.Sound fun _ => True) : Shape committed := by
  have markers := marking.markers
  cases main : process.main with
  | probing task =>
      simp only [Markers, main] at markers
      exact .unmarked markers
  | serving started =>
      simp only [Markers, main] at markers
      exact .opened _ markers
  | exited window =>
      simp only [Markers, main] at markers
      exact markers
  | startingRecording task =>
      have resting := bracketing.resting (by simp [exited, main])
      have phase := bracketing.phase
      simp only [Phase, main] at phase
      obtain ⟨_, writer, liveness, _⟩ := phase
      simp only [Markers, main] at markers
      obtain ⟨probed, early, own, rfl⟩ := markers
      exact shape_starting early own (marking.made sound resting (by
        rw [main]
        rfl) (by simp [active, main, writer, liveness]))
  | endingRecording started task =>
      have resting := bracketing.resting (by simp [exited, main])
      have phase := bracketing.phase
      simp only [Phase, main] at phase
      obtain ⟨_, writer, liveness, _⟩ := phase
      simp only [Markers, main] at markers
      obtain ⟨during, marked, rfl⟩ := markers
      exact shape_ending marked (marking.made sound resting (by
        rw [main]
        rfl) (by simp [active, main, writer, liveness]))

end Process

end Bowerbird.Daemon
