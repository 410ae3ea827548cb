import Bowerbird.Adapter.Normalize
import Bowerbird.Foundation.Machine
import Bowerbird.Projection.Publication
import Bowerbird.Projection.Task

namespace Bowerbird.Daemon

open Protocol Foundation Projection

/-! The daemon's writing side: any number of tasks over one store.  A step is one
answer to one waiting task, so steps interleave at await points and nowhere
else. -/

inductive Job where
  | hook (envelope : EventEnvelope)
  | replay (envelope : EventEnvelope)
  | probe
  | recordingStarted
  | recordingEnded (recordingSessionId : Int)
  deriving Repr, DecidableEq

namespace Job

/-- A probe comes to its report, unless its scan fails. -/
def task : Job → Async (Option ProbeReport)
  | hook envelope => do
      let _ ← write envelope
      return none
  | replay envelope => do
      let _ ← writeReplayed envelope
      return none
  | probe => do
      let result ← probeOnce
      return result.toOption
  | recordingStarted => do
      let _ ← (Program.query Op.writeRecordingStarted : Async _)
      return none
  | recordingEnded recordingSessionId => do
      let _ ← (Program.query (Op.writeRecordingEnded recordingSessionId) : Async _)
      return none

/-- The envelope that a job brings in from outside. -/
def envelope? : Job → Option EventEnvelope
  | hook envelope | replay envelope => some envelope
  | probe | recordingStarted | recordingEnded _ => none

/-- The probe does not pin the time of the rows it ends; supersession does. -/
def pins : Job → Bool
  | probe => false
  | hook _ | replay _ | recordingStarted | recordingEnded _ => true

def monitor (job : Job) : Program.Monitor Op Op.Answer :=
  scanMonitor job.envelope? job.pins

theorem task_obeys (job : Job) :
    job.task.Obeys job.monitor (fun _ _ => True) none := by
  cases job with
  | hook envelope =>
      refine Program.Obeys.bind _ (Program.Obeys.mono _ ?_
        (write_obeys envelope))
      exact fun _ _ _ => trivial
  | replay envelope =>
      refine Program.Obeys.bind _ (Program.Obeys.mono _ ?_
        (writeCommitted_obeys envelope))
      exact fun _ _ _ => trivial
  | probe =>
      refine Program.Obeys.bind _ (Program.Obeys.mono _ ?_ probeOnce_obeys)
      exact fun _ _ _ => trivial
  | recordingStarted =>
      refine Program.Obeys.ask _ ?_ fun _ => ?_ <;> exact trivial
  | recordingEnded recordingSessionId =>
      refine Program.Obeys.ask _ ?_ fun _ => ?_ <;> exact trivial

end Job

structure TaskState where
  job : Job
  task : Async (Option ProbeReport)
  /-- The rows of the task's last scan. -/
  selected : Option (List Db.ProjectionRow)

structure System where
  store : Store Nat
  tasks : List TaskState

inductive SystemLabel where
  | spawn (job : Job)
  | begin (task : Nat) (nowMs : Int)
  | transact (faults : FaultPlan)
  | finish
  | select (task : Nat)
  | refuse (task : Nat) (error : Error)
  | clock (task : Nat) (reading : Except Error Int)
  | kill (task : Nat) (result : KillResult)
  | cancelled (task : Nat) (flag : Bool)

inductive SystemSeen where
  | store (seen : StoreSeen Nat)
  | selected (task : Nat) (rows : List Db.ProjectionRow)

/-! Answers, by the operation that waits for them. -/

def replyWritten (result : Except SqlError Outcome) :
    (op : Op) → Option op.Answer
  | .writeInner _ _ =>
      match result with
      | .error error => some (.error (.sqlite error))
      | .ok (.written written) => some (.ok (some written.eventId))
      | .ok .skipped => some (.ok none)
      | .ok _ => none
  | .writeRecordingStarted =>
      match result with
      | .error error => some (.error (.sqlite error))
      | .ok (.recordingStarted eventId recordingSessionId) =>
          some (.ok { eventId, recordingSessionId })
      | .ok _ => none
  | .writeRecordingEnded _ =>
      match result with
      | .error error => some (.error (.sqlite error))
      | .ok (.recordingEnded eventId) => some (.ok eventId)
      | .ok _ => none
  | _ => none

/-- The pool, the clock or a guard fails before the database is reached. -/
def replyRefused (error : Error) : (op : Op) → Option op.Answer
  | .writeInner _ _ => some (.error error)
  | .writeRecordingStarted => some (.error error)
  | .writeRecordingEnded _ => some (.error error)
  | .selectNonSentinelSessions => some (.error error)
  | _ => none

def replySelected (rows : List Db.ProjectionRow) :
    (op : Op) → Option op.Answer
  | .selectNonSentinelSessions => some (.ok rows)
  | _ => none

def replyClock (reading : Except Error Int) : (op : Op) → Option op.Answer
  | .currentUnixMillis => some reading
  | _ => none

def replyKill (result : KillResult) : (op : Op) → Option op.Answer
  | .kill _ => some result
  | _ => none

def replyCancelled (flag : Bool) : (op : Op) → Option op.Answer
  | .isCancelled => some flag
  | _ => none

namespace System

/-- A bare hook of one session, with nothing but its kind and pid. -/
def bareHook (sessionId : String) (kind : EventKind) (pid : Option Nat) :
    EventEnvelope :=
  { source := Adapter.source
    sessionId
    kind
    reaction := none
    payload := emptyPayload
    pid
    notificationType := none
    cwd := none }

def initial (db : Db) (hub : List BroadcastEnvelope) : System :=
  { store := { db, hub, inFlight := none }, tasks := [] }

/-- Answer a waiting task, which then runs on to its next question. -/
def reply (system : System) (task : Nat)
    (respond : (op : Op) → Option op.Answer) : Option System :=
  match system.tasks[task]? with
  | none => none
  | some state =>
      match state.task with
      | .done _ => none
      | .ask op resume =>
          match respond op with
          | none => none
          | some answer =>
              some { system with
                tasks := system.tasks.set task
                  { state with
                    task := resume answer
                    selected :=
                      state.job.monitor.remember state.selected op answer } }

/-- The write that a task waits to make. -/
def request? (system : System) (task : Nat) : Option WriteRequest :=
  match system.tasks[task]? with
  | none => none
  | some state =>
      match state.task with
      | .done _ => none
      | .ask op _ => op.request?

def lift (system : System) :
    Option (Store Nat × List (StoreSeen Nat)) →
      Option (System × List SystemSeen)
  | none => none
  | some (store, seen) => some ({ system with store }, seen.map .store)

def step (system : System) :
    SystemLabel → Option (System × List SystemSeen)
  | .spawn job =>
      some ({ system with
        tasks := system.tasks ++
          [{ job, task := job.task, selected := none }] }, [])
  | .begin task nowMs =>
      match system.request? task with
      | none => none
      | some request => system.lift (system.store.begin task request nowMs)
  | .transact faults => system.lift (system.store.transact faults)
  | .finish =>
      match system.store.inFlight with
      | none => none
      | some flight =>
          match flight.result with
          | none => none
          | some result =>
              match system.reply flight.owner (replyWritten result) with
              | none => none
              | some system => system.lift system.store.finish
  | .select task =>
      -- the scan needs the one writer connection too
      match system.store.inFlight with
      | some _ => none
      | none =>
          let rows := system.store.db.selectNonSentinelSessions
          (system.reply task (replySelected rows)).map
            (·, [.selected task rows])
  | .refuse task error =>
      if system.store.inFlight.any (·.owner = task) then none
      else (system.reply task (replyRefused error)).map (·, [])
  | .clock task reading => (system.reply task (replyClock reading)).map (·, [])
  | .kill task result => (system.reply task (replyKill result)).map (·, [])
  | .cancelled task flag =>
      (system.reply task (replyCancelled flag)).map (·, [])

def machine : Machine System SystemLabel SystemSeen where
  step := step

/-! What each step can do, said once. -/

section Cases

variable {system next : System} {task : Nat} {seen : List SystemSeen}

theorem reply_cases {respond : (op : Op) → Option op.Answer}
    (replied : system.reply task respond = some next) :
    ∃ state op resume answer, system.tasks[task]? = some state ∧
      state.task = .ask op resume ∧ respond op = some answer ∧
      next = { system with
        tasks := system.tasks.set task
          { state with
            task := resume answer
            selected :=
              state.job.monitor.remember state.selected op answer } } := by
  unfold reply at replied
  split at replied
  · cases replied
  · rename_i state found
    split at replied
    · cases replied
    · rename_i op resume waiting
      split at replied
      · cases replied
      · rename_i answer responded
        cases replied
        exact ⟨state, op, resume, answer, found, waiting, responded, rfl⟩

theorem lift_cases {result : Option (Store Nat × List (StoreSeen Nat))}
    (lifted : system.lift result = some (next, seen)) :
    ∃ store out, result = some (store, out) ∧
      next = { system with store } ∧ seen = out.map .store := by
  unfold lift at lifted
  split at lifted
  · cases lifted
  · cases lifted
    exact ⟨_, _, rfl, rfl, rfl⟩

theorem request?_cases {request : WriteRequest}
    (asks : system.request? task = some request) :
    ∃ state op resume, system.tasks[task]? = some state ∧
      state.task = .ask op resume ∧ op.request? = some request := by
  unfold request? at asks
  split at asks
  · cases asks
  · rename_i state found
    split at asks
    · cases asks
    · rename_i op resume waiting
      exact ⟨state, op, resume, found, waiting, asks⟩

theorem begin_cases {nowMs : Int}
    (taken : system.step (.begin task nowMs) = some (next, seen)) :
    ∃ request store, system.request? task = some request ∧
      system.store.begin task request nowMs = some (store, []) ∧
      next = { system with store } ∧ seen = [] := by
  simp only [step] at taken
  split at taken
  · cases taken
  · rename_i request asks
    obtain ⟨store, out, begun, rfl, rfl⟩ := lift_cases taken
    obtain ⟨_, _, rfl, _⟩ := Store.begin_cases begun
    exact ⟨request, store, asks, begun, rfl, rfl⟩

theorem finish_cases
    (taken : system.step .finish = some (next, seen)) :
    ∃ flight result middle store out,
      system.store.inFlight = some flight ∧ flight.result = some result ∧
      system.reply flight.owner (replyWritten result) = some middle ∧
      system.store.finish = some (store, out) ∧
      next = { middle with store } ∧ seen = out.map .store := by
  simp only [step] at taken
  split at taken
  · cases taken
  · rename_i flight busy
    split at taken
    · cases taken
    · rename_i result settled
      split at taken
      · cases taken
      · rename_i middle replied
        obtain ⟨store, out, finished, rfl, rfl⟩ := lift_cases taken
        obtain ⟨_, _, _, _, _, _, _, rfl⟩ := reply_cases replied
        exact ⟨flight, result, _, store, out, busy, settled, replied, finished,
          rfl, rfl⟩

theorem select_cases
    (taken : system.step (.select task) = some (next, seen)) :
    system.store.inFlight = none ∧
      system.reply task
        (replySelected system.store.db.selectNonSentinelSessions) = some next ∧
      seen = [.selected task system.store.db.selectNonSentinelSessions] := by
  simp only [step] at taken
  split at taken
  · cases taken
  · rename_i free
    obtain ⟨_, replied, pair⟩ := Option.map_eq_some_iff.mp taken
    cases pair
    exact ⟨free, replied, rfl⟩

theorem refuse_cases {error : Error}
    (taken : system.step (.refuse task error) = some (next, seen)) :
    (∀ flight, system.store.inFlight = some flight → flight.owner ≠ task) ∧
      system.reply task (replyRefused error) = some next ∧ seen = [] := by
  simp only [step] at taken
  split at taken
  · cases taken
  · rename_i other
    obtain ⟨_, replied, pair⟩ := Option.map_eq_some_iff.mp taken
    cases pair
    refine ⟨?_, replied, rfl⟩
    rintro flight busy rfl
    simp [busy] at other

theorem answer_cases {respond : (op : Op) → Option op.Answer}
    (taken : (system.reply task respond).map (·, ([] : List SystemSeen)) =
      some (next, seen)) :
    system.reply task respond = some next ∧ seen = [] := by
  obtain ⟨_, replied, pair⟩ := Option.map_eq_some_iff.mp taken
  cases pair
  exact ⟨replied, rfl⟩

end Cases

/-! Every task keeps to its monitor, and the write in flight is the one that its
owner waits for. -/

structure Sound (primary : EventEnvelope → Prop) (system : System) : Prop where
  obeys : ∀ state ∈ system.tasks,
    state.task.Obeys state.job.monitor (fun _ _ => True) state.selected
  brought : ∀ state ∈ system.tasks, ∀ envelope,
    state.job.envelope? = some envelope → primary envelope
  flight : ∀ flight, system.store.inFlight = some flight →
    system.request? flight.owner = some flight.request

section Sound

variable {primary : EventEnvelope → Prop} {system next : System}
variable {task : Nat}

theorem Sound.reply (sound : system.Sound primary)
    {respond : (op : Op) → Option op.Answer}
    (apart : ∀ flight, system.store.inFlight = some flight →
      flight.owner ≠ task)
    (replied : system.reply task respond = some next) :
    next.Sound primary := by
  obtain ⟨state, op, resume, answer, found, waiting, _, rfl⟩ :=
    reply_cases replied
  have member := List.mem_of_getElem? found
  have asked := sound.obeys state member
  rw [waiting] at asked
  exact {
    obeys := by
      intro other otherMember
      rcases List.mem_or_eq_of_mem_set otherMember with otherMember | rfl
      · exact sound.obeys other otherMember
      · exact asked.2 answer
    brought := by
      intro other otherMember envelope brings
      rcases List.mem_or_eq_of_mem_set otherMember with otherMember | rfl
      · exact sound.brought other otherMember envelope brings
      · exact sound.brought state member envelope brings
    flight := by
      intro flight busy
      have asks := sound.flight flight busy
      simp only [request?] at asks ⊢
      rw [List.getElem?_set_ne (apart flight busy).symm]
      exact asks }

/-- A task that waits for anything but a write has none in flight. -/
theorem Sound.apart (sound : system.Sound primary)
    (idle : ∀ request, system.request? task ≠ some request) :
    ∀ flight, system.store.inFlight = some flight → flight.owner ≠ task := by
  rintro flight busy rfl
  exact idle _ (sound.flight flight busy)

theorem reply_idle {respond : (op : Op) → Option op.Answer}
    (replied : system.reply task respond = some next)
    (reads : ∀ op answer, respond op = some answer → op.request? = none) :
    ∀ request, system.request? task ≠ some request := by
  obtain ⟨state, op, resume, answer, found, waiting, responded, _⟩ :=
    reply_cases replied
  intro request asks
  simp only [request?, found, waiting] at asks
  rw [reads op answer responded] at asks
  cases asks

theorem Sound.step {label : SystemLabel} {seen : List SystemSeen}
    (sound : system.Sound primary)
    (brings : ∀ job, label = .spawn job →
      ∀ envelope, job.envelope? = some envelope → primary envelope)
    (taken : system.step label = some (next, seen)) :
    next.Sound primary := by
  cases label with
  | spawn job =>
      cases taken
      exact {
        obeys := by
          intro state member
          rcases List.mem_append.mp member with member | member
          · exact sound.obeys state member
          · rw [List.mem_singleton] at member
            subst member
            exact job.task_obeys
        brought := by
          intro state member
          rcases List.mem_append.mp member with member | member
          · exact sound.brought state member
          · rw [List.mem_singleton] at member
            subst member
            exact brings job rfl
        flight := by
          intro flight busy
          have asks := sound.flight flight busy
          obtain ⟨state, op, resume, found, waiting, asked⟩ :=
            request?_cases asks
          simp only [request?]
          rw [List.getElem?_append_left
            (List.getElem?_eq_some_iff.mp found).1, found]
          simp only [waiting]
          exact asked }
  | begin task nowMs =>
      obtain ⟨request, store, asks, begun, rfl, rfl⟩ := begin_cases taken
      obtain ⟨_, _, _, rfl⟩ := Store.begin_cases begun
      exact {
        obeys := sound.obeys
        brought := sound.brought
        flight := by
          rintro flight ⟨rfl⟩
          exact asks }
  | transact faults =>
      obtain ⟨store, out, transacted, rfl, rfl⟩ := lift_cases taken
      obtain ⟨flight, busy, _, ⟨_, _, _, _, _, rfl⟩ | ⟨_, _, _, _, rfl⟩⟩ :=
        Store.transact_cases transacted
      all_goals
        exact {
          obeys := sound.obeys
          brought := sound.brought
          flight := by
            rintro _ ⟨rfl⟩
            exact sound.flight flight busy }
  | finish =>
      obtain ⟨flight, result, middle, store, out, busy, settled, replied,
        finished, rfl, rfl⟩ := finish_cases taken
      obtain ⟨_, _, _, _, _, rfl⟩ := Store.finish_cases finished
      obtain ⟨state, op, resume, answer, found, waiting, _, rfl⟩ :=
        reply_cases replied
      have member := List.mem_of_getElem? found
      have asked := sound.obeys state member
      rw [waiting] at asked
      exact {
        obeys := by
          intro other otherMember
          rcases List.mem_or_eq_of_mem_set otherMember with otherMember | rfl
          · exact sound.obeys other otherMember
          · exact asked.2 answer
        brought := by
          intro other otherMember envelope brings
          rcases List.mem_or_eq_of_mem_set otherMember with otherMember | rfl
          · exact sound.brought other otherMember envelope brings
          · exact sound.brought state member envelope brings
        flight := by rintro _ ⟨⟩ }
  | select task =>
      obtain ⟨free, replied, _⟩ := select_cases taken
      refine sound.reply ?_ replied
      intro flight busy
      rw [free] at busy
      cases busy
  | refuse task error =>
      obtain ⟨apart, replied, _⟩ := refuse_cases taken
      exact sound.reply apart replied
  | clock task reading =>
      obtain ⟨replied, _⟩ := answer_cases taken
      refine sound.reply (sound.apart (reply_idle replied ?_)) replied
      intro op answer responded
      cases op <;> first | rfl | cases responded
  | kill task result =>
      obtain ⟨replied, _⟩ := answer_cases taken
      refine sound.reply (sound.apart (reply_idle replied ?_)) replied
      intro op answer responded
      cases op <;> first | rfl | cases responded
  | cancelled task flag =>
      obtain ⟨replied, _⟩ := answer_cases taken
      refine sound.reply (sound.apart (reply_idle replied ?_)) replied
      intro op answer responded
      cases op <;> first | rfl | cases responded

variable (primary) in
theorem sound_initial (db : Db) (hub : List BroadcastEnvelope) :
    (initial db hub).Sound primary where
  obeys := by simp [initial]
  brought := by simp [initial]
  flight := by rintro _ ⟨⟩

variable {ok : System → SystemLabel → Prop} {start final : System}
variable {seen : List SystemSeen}

theorem sound_of_run (run : machine.Run ok start final seen)
    (sound : start.Sound primary)
    (brings : ∀ system job, ok system (.spawn job) →
      ∀ envelope, job.envelope? = some envelope → primary envelope) :
    final.Sound primary := by
  refine run.invariant (fun system _ => system.Sound primary) sound ?_
  intro middle next seen out label _ sound allowed taken
  refine sound.step ?_ taken
  rintro job rfl
  exact brings middle job allowed

end Sound

/-! The store of a running system runs as a store does, and is asked for nothing
but envelopes brought in from outside, conditional ends and recordings. -/

def Asked (primary : EventEnvelope → Prop) : WriteRequest → Prop
  | .event envelope none => primary envelope
  | .event envelope (some precondition) =>
      envelope.kind = .sessionEnded ∧
        precondition.expectedCurrentState ≠ .ended
  | .recordingStarted | .recordingEnded _ => True

def StoreAsked (primary : EventEnvelope → Prop) (_ : Store Nat) :
    StoreLabel Nat → Prop
  | .begin _ request _ => Asked primary request
  | .transact _ | .finish => True

def storeSeen : SystemSeen → List (StoreSeen Nat)
  | .store seen => [seen]
  | .selected _ _ => []

@[simp] theorem flatMap_storeSeen_map (out : List (StoreSeen Nat)) :
    (out.map SystemSeen.store).flatMap storeSeen = out := by
  induction out with
  | nil => rfl
  | cons head rest induction =>
      simp only [List.map_cons, List.flatMap_cons, induction]
      rfl

theorem Sound.asked {primary : EventEnvelope → Prop} {system : System}
    (sound : system.Sound primary) {task : Nat} {request : WriteRequest}
    (asks : system.request? task = some request) : Asked primary request := by
  obtain ⟨state, op, resume, found, waiting, asked⟩ := request?_cases asks
  have member := List.mem_of_getElem? found
  have obeys := sound.obeys state member
  rw [waiting] at obeys
  have allowed := obeys.1
  cases op with
  | writeInner envelope precondition =>
      cases asked
      cases precondition with
      | none => exact sound.brought state member envelope allowed
      | some precondition =>
          obtain ⟨_, _, _, _, kind, _, stored, _, live, _, _, rfl⟩ := allowed
          exact ⟨kind, live⟩
  | writeRecordingStarted => cases asked; exact trivial
  | writeRecordingEnded recordingSessionId => cases asked; exact trivial
  | selectNonSentinelSessions => cases asked
  | currentUnixMillis => cases asked
  | kill pid => cases asked
  | isCancelled => cases asked

theorem step_store {primary : EventEnvelope → Prop} {system next : System}
    {label : SystemLabel} {out : List SystemSeen}
    (sound : system.Sound primary)
    (taken : system.step label = some (next, out)) :
    (Store.machine Nat).Run (StoreAsked primary) system.store next.store
      (out.flatMap storeSeen) := by
  cases label with
  | spawn job => cases taken; exact .start
  | begin task nowMs =>
      obtain ⟨request, store, asks, begun, rfl, rfl⟩ := begin_cases taken
      have allowed : StoreAsked primary system.store
          (.begin task request nowMs) := sound.asked asks
      exact Machine.Run.single allowed begun
  | transact faults =>
      obtain ⟨store, out, transacted, rfl, rfl⟩ := lift_cases taken
      rw [flatMap_storeSeen_map]
      have allowed : StoreAsked primary system.store (.transact faults) :=
        trivial
      exact Machine.Run.single allowed transacted
  | finish =>
      obtain ⟨_, _, _, store, out, _, _, replied, finished, rfl, rfl⟩ :=
        finish_cases taken
      rw [flatMap_storeSeen_map]
      have allowed : StoreAsked primary system.store .finish := trivial
      exact Machine.Run.single allowed finished
  | select task =>
      obtain ⟨_, replied, rfl⟩ := select_cases taken
      obtain ⟨_, _, _, _, _, _, _, rfl⟩ := reply_cases replied
      exact .start
  | refuse task error =>
      obtain ⟨_, replied, rfl⟩ := refuse_cases taken
      obtain ⟨_, _, _, _, _, _, _, rfl⟩ := reply_cases replied
      exact .start
  | clock task reading =>
      obtain ⟨replied, rfl⟩ := answer_cases taken
      obtain ⟨_, _, _, _, _, _, _, rfl⟩ := reply_cases replied
      exact .start
  | kill task result =>
      obtain ⟨replied, rfl⟩ := answer_cases taken
      obtain ⟨_, _, _, _, _, _, _, rfl⟩ := reply_cases replied
      exact .start
  | cancelled task flag =>
      obtain ⟨replied, rfl⟩ := answer_cases taken
      obtain ⟨_, _, _, _, _, _, _, rfl⟩ := reply_cases replied
      exact .start

/-- The system simulates its store. -/
theorem run_store {primary : EventEnvelope → Prop}
    {ok : System → SystemLabel → Prop} {start final : System}
    {seen : List SystemSeen} (run : machine.Run ok start final seen)
    (sound : start.Sound primary)
    (brings : ∀ system job, ok system (.spawn job) →
      ∀ envelope, job.envelope? = some envelope → primary envelope) :
    (Store.machine Nat).Run (StoreAsked primary) start.store final.store
      (seen.flatMap storeSeen) := by
  refine Machine.Run.simulate (·.store) storeSeen ?_ run
  intro middle next seen out label before allowed taken
  exact step_store (sound_of_run before sound brings) taken

/-- Whatever a store is only asked for is all that it commits. -/
theorem commits_asked {primary : EventEnvelope → Prop} {start final : Store Nat}
    {seen : List (StoreSeen Nat)}
    (run : (Store.machine Nat).Run (StoreAsked primary) start final seen)
    (idle : start.inFlight = none) :
    ∀ commit ∈ commits seen, Asked primary commit.request := by
  have both := run.invariant
    (fun store seen =>
      (∀ flight, store.inFlight = some flight → Asked primary flight.request) ∧
        ∀ commit ∈ commits seen, Asked primary commit.request)
    ⟨by simp [idle], by simp⟩ ?_
  · exact both.2
  intro middle next seen out label _ holds asked taken
  cases label with
  | begin owner request nowMs =>
      obtain ⟨_, _, rfl, rfl⟩ := Store.begin_cases taken
      refine ⟨?_, by simpa using holds.2⟩
      rintro _ ⟨rfl⟩
      exact asked
  | transact faults =>
      obtain ⟨flight, busy, _, ⟨result, db, _, _, rfl, rfl⟩ |
        ⟨_, _, _, rfl, rfl⟩⟩ := Store.transact_cases taken
      · refine ⟨?_, ?_⟩
        · rintro _ ⟨rfl⟩
          exact holds.1 flight busy
        · intro commit member
          rw [commits_append, commits_committed, List.mem_append,
            List.mem_singleton] at member
          rcases member with member | rfl
          · exact holds.2 commit member
          · exact holds.1 flight busy
      · refine ⟨?_, by simpa using holds.2⟩
        rintro _ ⟨rfl⟩
        exact holds.1 flight busy
  | finish =>
      obtain ⟨_, _, _, _, rfl, rfl⟩ := Store.finish_cases taken
      refine ⟨?_, by simpa using holds.2⟩
      rintro _ ⟨⟩

end System

end Bowerbird.Daemon
