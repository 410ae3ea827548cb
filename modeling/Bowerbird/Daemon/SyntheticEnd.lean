import Bowerbird.Daemon.System
import Mathlib.Data.List.Chain

namespace Bowerbird.Daemon

open Protocol Foundation Projection

/-! Synthetic ends: what the probe and supersession write, and how far they yield
to the hooks. -/

/-- Only the scans write on a condition. -/
def synthetic (commit : Commit Nat) : Bool :=
  match commit.request with
  | .event _ (some _) => true
  | _ => false

def isEnded (db : Db) (key : SessionKey) : Prop :=
  ∃ state, db.stored key = some state ∧ state.currentState = .ended

/-- A synthetic commit found its session stored and not ended. -/
theorem synthetic_live {primary : EventEnvelope → Prop} {commit : Commit Nat}
    {result : Except SqlError Outcome}
    (asked : System.Asked primary commit.request)
    (ends : synthetic commit = true)
    (outcome : commit.request.outcome commit.nowMs commit.before =
      (result, some commit.after)) :
    (∃ state, commit.before.stored commit.key = some state ∧
        state.currentState ≠ .ended) ∧
      commit.row.kind = Db.eventKindAsStr .sessionEnded ∧
      isEnded commit.after commit.key := by
  unfold synthetic at ends
  split at ends
  · rename_i envelope precondition request
    have appended := (commit_appends outcome).stored_self
    unfold Commit.key Commit.row at *
    rw [request] at asked outcome appended ⊢
    obtain ⟨kind, live⟩ := asked
    refine ⟨?_, ?_, _, appended, ?_⟩
    · simp only [WriteRequest.outcome] at outcome
      split at outcome
      · rename_i admitted
        simp only [preconditionAdmits, Option.all_some] at admitted
        cases stored : commit.before.stored envelope.key with
        | none => simp [stored, WritePrecondition.admits] at admitted
        | some state =>
            rw [stored] at admitted
            simp only [WritePrecondition.admits, Bool.and_eq_true,
              beq_iff_eq] at admitted
            exact ⟨state, stored, admitted.1.1 ▸ live⟩
      · cases outcome
    · simp [WriteRequest.columns, envelopeColumns, Db.EventColumns.row, kind]
    · simp [envelopeTransition, kind]
  · cases ends

/-- Along a chain, a session that a synthetic commit has ended is not ended again
before something else is committed for it. -/
theorem Chained.isChain_synthetic {primary : EventEnvelope → Prop} {db final : Db}
    {committed : List (Commit Nat)} (chained : Chained db committed final)
    (asked : ∀ commit ∈ committed, System.Asked primary commit.request)
    (key : SessionKey) :
    (isEnded db key →
        ∀ commit ∈ (committed.filter (·.key = key)).head?,
          synthetic commit = false) ∧
      (committed.filter (·.key = key)).IsChain fun first second =>
        ¬ (synthetic first = true ∧ synthetic second = true) := by
  induction committed generalizing db with
  | nil => simp
  | cons commit rest induction =>
      obtain ⟨before, ⟨result, outcome⟩, _, chained⟩ := chained
      have own := asked commit (by simp)
      have later := induction chained
        fun other member => asked other (by simp [member])
      by_cases same : commit.key = key
      · subst same
        rw [List.filter_cons_of_pos (by simp)]
        constructor
        · rintro ⟨state, stored, ended⟩ _ ⟨rfl⟩
          by_contra ends
          rw [Bool.not_eq_false] at ends
          obtain ⟨⟨state', stored', live⟩, _⟩ :=
            synthetic_live own ends outcome
          rw [before, stored] at stored'
          cases stored'
          exact live ended
        · rw [List.isChain_cons]
          refine ⟨fun second head => ?_, later.2⟩
          rintro ⟨ends, again⟩
          have ended := (synthetic_live own ends outcome).2.2
          rw [later.1 ended second head] at again
          cases again
      · rw [List.filter_cons_of_neg (by simpa using same)]
        refine ⟨fun ended => later.1 ?_, later.2⟩
        unfold isEnded
        rw [commit_stored_ne outcome same, before]
        exact ended

namespace System

/-- However the scans and the hooks interleave, a synthetic end is only appended
to a session that is stored and not ended, and between two of them the session
has an event of its own. -/
theorem no_double_end {ok : System → SystemLabel → Prop} {db : Db}
    {hub : List BroadcastEnvelope} {final : System} {seen : List SystemSeen}
    (run : machine.Run ok (initial db hub) final seen)
    (wellFormed : db.WellFormed) :
    let committed := commits (seen.flatMap storeSeen)
    (∀ commit ∈ committed, synthetic commit = true →
      commit.row.kind = Db.eventKindAsStr .sessionEnded ∧
        ∃ state, commit.before.stored commit.key = some state ∧
          state.currentState ≠ .ended) ∧
      ∀ key early between late first second,
        committed.filter (·.key = key) =
          early ++ first :: (between ++ second :: late) →
        synthetic first = true → synthetic second = true →
        ∃ commit ∈ between, synthetic commit = false := by
  intro committed
  have stored := run_store run (sound_initial (fun _ => True) db hub)
    fun _ _ _ _ _ => trivial
  have chained := (ledger_of_run stored wellFormed rfl).chained
  have asked := commits_asked stored rfl
  constructor
  · intro commit member ends
    obtain ⟨result, outcome⟩ := Chained.outcome chained commit member
    obtain ⟨live, kind, _⟩ := synthetic_live (asked commit member) ends outcome
    exact ⟨kind, live⟩
  · intro key early between late first second split firstEnds secondEnds
    have chain := (Chained.isChain_synthetic chained asked key).2
    rw [split] at chain
    have tail := (List.isChain_append.mp chain).2.1
    rw [List.isChain_cons] at tail
    cases between with
    | nil => exact absurd ⟨firstEnds, secondEnds⟩ (tail.1 second rfl)
    | cons middle rest =>
        refine ⟨middle, by simp, ?_⟩
        have apart := tail.1 middle rfl
        simpa [firstEnds] using apart

/-- A supersession and a probe that both read the session `a` before either of
them ended it. -/
def doubleScan : List SystemLabel :=
  [.spawn (.hook (bareHook "a" .preToolUse (some 7))), .begin 0 1000,
    .transact FaultPlan.none, .finish,
    .spawn (.hook (bareHook "b" .preToolUse (some 7))), .begin 1 2000,
    .transact FaultPlan.none, .finish, .select 1, .clock 1 (.ok 2001),
    .spawn .probe, .select 2, .clock 2 (.ok 2002), .cancelled 2 false,
    .kill 2 .esrch, .begin 2 2003, .transact FaultPlan.none, .finish,
    .cancelled 2 false, .kill 2 .esrch,
    .begin 1 2004, .transact FaultPlan.none, .finish,
    .begin 2 2005, .transact FaultPlan.none, .finish]

theorem no_double_end_doubleScan :
    ∃ seen : List SystemSeen,
      (finishes (seen.flatMap storeSeen)).length = 5 ∧
      (commits (seen.flatMap storeSeen)).length = 4 ∧
      ∀ commit ∈ commits (seen.flatMap storeSeen), synthetic commit = true →
        ∃ state, commit.before.stored commit.key = some state ∧
          state.currentState ≠ .ended := by
  have ⟨final, seen, run, checked⟩ := Machine.exec_check
    (machine.execMeets_true (initial Db.empty []) doubleScan)
    (fun result : System × List SystemSeen =>
      decide ((finishes (result.2.flatMap storeSeen)).length = 5 ∧
        (commits (result.2.flatMap storeSeen)).length = 4))
    (by decide)
  obtain ⟨finished, committed⟩ := of_decide_eq_true checked
  refine ⟨seen, finished, committed, fun commit member ends => ?_⟩
  exact ((no_double_end run Db.wellFormed_empty).1 commit member ends).2

/-! The probe and the hooks that come between its scan and its write. -/

/-- Some hook event of the session is committed among what is seen. -/
def HookBetween (seen : List SystemSeen) (key : SessionKey) : Prop :=
  ∃ commit ∈ commits (seen.flatMap storeSeen),
    commit.key = key ∧ synthetic commit = false

/-- What is committed for the session since the scan has left another state or
another pid than the scan read. -/
def Moved (seen : List SystemSeen) (rows : List Db.ProjectionRow)
    (key : SessionKey) : Prop :=
  ∀ row ∈ rows, row.key = key → ∀ state, row.state = .json state →
    (carried key state (commits (seen.flatMap storeSeen))).currentState ≠
        state.currentState ∨
      (carried key state (commits (seen.flatMap storeSeen))).lastPid ≠
        state.lastPid

theorem step_atMostOne {system next : System} {label : SystemLabel}
    {out : List SystemSeen} (taken : machine.step system label = some (next, out)) :
    out.length ≤ 1 := by
  cases label with
  | spawn job => cases taken; simp
  | begin task nowMs =>
      obtain ⟨_, _, _, _, _, rfl⟩ := begin_cases taken
      simp
  | transact faults =>
      obtain ⟨_, _, transacted, _, rfl⟩ := lift_cases taken
      obtain ⟨_, _, _, ⟨_, _, _, _, rfl, _⟩ | ⟨_, _, _, rfl, _⟩⟩ :=
        Store.transact_cases transacted <;> simp
  | finish =>
      obtain ⟨_, _, _, _, _, _, _, _, finished, _, rfl⟩ := finish_cases taken
      obtain ⟨_, _, _, _, rfl, _⟩ := Store.finish_cases finished
      simp
  | select task =>
      obtain ⟨_, _, rfl⟩ := select_cases taken
      simp
  | refuse task error =>
      obtain ⟨_, _, rfl⟩ := refuse_cases taken
      simp
  | clock task reading =>
      obtain ⟨_, rfl⟩ := answer_cases taken
      simp
  | kill task result =>
      obtain ⟨_, rfl⟩ := answer_cases taken
      simp
  | cancelled task flag =>
      obtain ⟨_, rfl⟩ := answer_cases taken
      simp

/-- A task whose scan has been made. -/
def Scanned (system : System) (task : Nat) (rows : List Db.ProjectionRow) :
    Prop :=
  ∃ state, system.tasks[task]? = some state ∧ state.selected = some rows

theorem Scanned.reply {primary : EventEnvelope → Prop} {system next : System}
    {task other : Nat} {rows : List Db.ProjectionRow}
    {respond : (op : Op) → Option op.Answer} (sound : system.Sound primary)
    (scanned : system.Scanned task rows)
    (replied : system.reply other respond = some next) :
    next.Scanned task rows := by
  obtain ⟨state, found, selected⟩ := scanned
  obtain ⟨state', op, resume, answer, found', waiting, _, rfl⟩ :=
    reply_cases replied
  by_cases same : other = task
  · subst same
    rw [found] at found'
    cases found'
    have bound := (List.getElem?_eq_some_iff.mp found).1
    refine ⟨_, List.getElem?_set_self bound, ?_⟩
    have obeys := sound.obeys state (List.mem_of_getElem? found)
    rw [waiting] at obeys
    have allowed := obeys.1
    -- a second scan would not be allowed, and nothing else is remembered
    cases op with
    | selectNonSentinelSessions =>
        have fresh : state.selected = none := allowed
        rw [selected] at fresh
        cases fresh
    | _ => exact selected
  · exact ⟨state, by rw [List.getElem?_set_ne same]; exact found, selected⟩

theorem Scanned.step {primary : EventEnvelope → Prop} {system next : System}
    {label : SystemLabel} {out : List SystemSeen} {task : Nat}
    {rows : List Db.ProjectionRow} (sound : system.Sound primary)
    (scanned : system.Scanned task rows)
    (taken : machine.step system label = some (next, out)) :
    next.Scanned task rows := by
  cases label with
  | spawn job =>
      cases taken
      obtain ⟨state, found, selected⟩ := scanned
      have bound := (List.getElem?_eq_some_iff.mp found).1
      exact ⟨state, by rw [List.getElem?_append_left bound]; exact found,
        selected⟩
  | begin task nowMs =>
      obtain ⟨_, _, _, _, rfl, _⟩ := begin_cases taken
      exact scanned
  | transact faults =>
      obtain ⟨_, _, _, rfl, _⟩ := lift_cases taken
      exact scanned
  | finish =>
      obtain ⟨_, _, _, _, _, _, _, replied, _, rfl, _⟩ := finish_cases taken
      obtain ⟨state, found, selected⟩ := scanned.reply sound replied
      exact ⟨state, found, selected⟩
  | select task =>
      exact scanned.reply sound (select_cases taken).2.1
  | refuse task error =>
      exact scanned.reply sound (refuse_cases taken).2.1
  | clock task reading => exact scanned.reply sound (answer_cases taken).1
  | kill task result => exact scanned.reply sound (answer_cases taken).1
  | cancelled task flag => exact scanned.reply sound (answer_cases taken).1

/-- The answer of a scan is remembered by the task that asked for it. -/
theorem scanned_of_select {system next : System} {task : Nat}
    {out : List SystemSeen}
    (taken : system.step (.select task) = some (next, out)) :
    next.Scanned task system.store.db.selectNonSentinelSessions := by
  obtain ⟨_, replied, _⟩ := select_cases taken
  obtain ⟨state, op, resume, answer, found, waiting, responded, rfl⟩ :=
    reply_cases replied
  have bound := (List.getElem?_eq_some_iff.mp found).1
  refine ⟨_, List.getElem?_set_self bound, ?_⟩
  cases op with
  | selectNonSentinelSessions =>
      cases responded
      rfl
  | _ => cases responded

theorem selected_ne_store (task : Nat) (rows : List Db.ProjectionRow)
    (out : List (StoreSeen Nat)) :
    [SystemSeen.selected task rows] ≠ out.map SystemSeen.store := by
  cases out <;> simp

/-- Only a scan reports what it selected. -/
theorem select_of_seen {system next : System} {label : SystemLabel} {task : Nat}
    {rows : List Db.ProjectionRow}
    (taken : machine.step system label =
      some (next, [.selected task rows])) :
    system.step (.select task) = some (next, [.selected task rows]) ∧
      rows = system.store.db.selectNonSentinelSessions := by
  cases label with
  | spawn job => cases taken
  | begin task nowMs =>
      obtain ⟨_, _, _, _, _, nothing⟩ := begin_cases taken
      cases nothing
  | transact faults =>
      obtain ⟨_, _, _, _, mapped⟩ := lift_cases taken
      exact absurd mapped (selected_ne_store _ _ _)
  | finish =>
      obtain ⟨_, _, _, _, _, _, _, _, _, _, mapped⟩ := finish_cases taken
      exact absurd mapped (selected_ne_store _ _ _)
  | select other =>
      obtain ⟨_, _, same⟩ := select_cases taken
      cases same
      exact ⟨taken, rfl⟩
  | refuse task error =>
      obtain ⟨_, _, nothing⟩ := refuse_cases taken
      cases nothing
  | clock task reading =>
      obtain ⟨_, nothing⟩ := answer_cases taken
      cases nothing
  | kill task result =>
      obtain ⟨_, nothing⟩ := answer_cases taken
      cases nothing
  | cancelled task flag =>
      obtain ⟨_, nothing⟩ := answer_cases taken
      cases nothing

/-! What the report of a probe counts. -/

/-- The answer to a write that was not admitted. -/
def answersSkipped : Except Error (Option Int) → Bool
  | .ok none => true
  | _ => false

def wasSkipped : Except SqlError Outcome → Bool
  | .ok .skipped => true
  | _ => false

/-- How many writes of a task have been skipped. -/
def skips (task : Nat) (seen : List SystemSeen) : Nat :=
  (finishes (seen.flatMap storeSeen)).countP fun finish =>
    finish.owner = task && wasSkipped finish.result

theorem skips_append (task : Nat) (seen later : List SystemSeen) :
    skips task (seen ++ later) = skips task seen + skips task later := by
  simp [skips]

theorem skips_finish (task owner : Nat) (request : WriteRequest)
    (result : Except SqlError Outcome) (opened closed : Db)
    (published : List BroadcastEnvelope) :
    skips task [.store (.finished
        ⟨owner, request, result, opened, closed, published⟩)] =
      if owner = task then if wasSkipped result then 1 else 0 else 0 := by
  by_cases own : owner = task
  · simp [skips, storeSeen, List.countP_singleton, own]
  · simp [skips, storeSeen, own]

/-- What a probe has still to ask ends in a report of all that was skipped. -/
def Reports (count : Nat) (task : Async (Option ProbeReport)) : Prop :=
  task.Obeys (tally answersSkipped) (fun memory made =>
    ∀ report, made = some report → report.skippedStale = memory) count

theorem reports_probe : Reports 0 Job.probe.task := by
  have tallied := @probeOnce_tally answersSkipped ProbeReport.skippedStale
    (by
      intro report answer
      rcases answer with error | _ | eventId <;> rfl)
    rfl
  refine Program.Obeys.bind _ (Program.Obeys.mono _ ?_ tallied)
  intro memory result counts report made
  cases result with
  | error error => cases made
  | ok other =>
      cases made
      exact counts _ rfl

structure Tallied (system : System) (seen : List SystemSeen) : Prop where
  reports : ∀ task state, system.tasks[task]? = some state →
    state.job = .probe → Reports (skips task seen) state.task
  early : ∀ task, system.tasks.length ≤ task → skips task seen = 0

section Tallied

variable {system next : System} {seen out : List SystemSeen} {other : Nat}

theorem Tallied.reply {respond : (op : Op) → Option op.Answer}
    (tallied : system.Tallied seen)
    (counted : ∀ op answer, respond op = some answer → ∀ count : Nat,
      (tally answersSkipped).remember count op answer = count + skips other out)
    (apart : ∀ task, task ≠ other → skips task out = 0)
    (replied : system.reply other respond = some next) :
    next.Tallied (seen ++ out) := by
  obtain ⟨state, op, resume, answer, found, waiting, responded, rfl⟩ :=
    reply_cases replied
  have bound := (List.getElem?_eq_some_iff.mp found).1
  refine ⟨?_, ?_⟩
  · intro task after present probing
    rw [skips_append]
    by_cases own : task = other
    · subst own
      rw [List.getElem?_set_self bound, Option.some.injEq] at present
      subst present
      have before := tallied.reports task state found probing
      rw [waiting] at before
      have goesOn := before.2 answer
      rw [counted op answer responded] at goesOn
      exact goesOn
    · rw [List.getElem?_set_ne (Ne.symm own)] at present
      rw [apart task own, Nat.add_zero]
      exact tallied.reports task after present probing
  · intro task beyond
    rw [List.length_set] at beyond
    rw [skips_append, tallied.early task beyond,
      apart task (Nat.ne_of_gt (Nat.lt_of_lt_of_le bound beyond))]

theorem Tallied.of_tasks (tallied : system.Tallied seen)
    (same : next.tasks = system.tasks) : next.Tallied seen where
  reports := by
    rw [same]
    exact tallied.reports
  early := by
    rw [same]
    exact tallied.early

/-- Whatever is answered without a write counts nothing. -/
theorem Tallied.answer {respond : (op : Op) → Option op.Answer}
    (tallied : system.Tallied seen)
    (plain : ∀ op answer, respond op = some answer → ∀ count : Nat,
      (tally answersSkipped).remember count op answer = count)
    (replied : system.reply other respond = some next)
    (quiet : out.flatMap storeSeen = []) : next.Tallied (seen ++ out) := by
  have none : ∀ task, skips task out = 0 := by
    intro task
    rw [skips, quiet]
    rfl
  refine tallied.reply ?_ (fun task _ => none task) replied
  intro op answer responded count
  rw [none, plain op answer responded, Nat.add_zero]

theorem replyWritten_tally {result : Except SqlError Outcome} {op : Op}
    {answer : op.Answer} (responded : replyWritten result op = some answer)
    (count : Nat) : (tally answersSkipped).remember count op answer =
      count + if wasSkipped result then 1 else 0 := by
  cases op with
  | writeInner envelope precondition =>
      rcases result with error | ⟨⟨⟩⟩ <;> cases responded <;> rfl
  | writeRecordingStarted | writeRecordingEnded =>
      rcases result with error | ⟨⟨⟩⟩ <;> cases responded <;> rfl
  | selectNonSentinelSessions | currentUnixMillis | kill | isCancelled =>
      cases responded

/-- The answer to a write goes to the task that made it. -/
theorem Tallied.finish (tallied : system.Tallied seen)
    (taken : system.step .finish = some (next, out)) :
    next.Tallied (seen ++ out) := by
  obtain ⟨flight, result, middle, store, stored, busy, settled, replied,
    finished, rfl, rfl⟩ := finish_cases taken
  obtain ⟨flight', result', busy', settled', rfl, rfl⟩ :=
    Store.finish_cases finished
  rw [busy, Option.some.injEq] at busy'
  subst busy'
  rw [settled, Option.some.injEq] at settled'
  subst settled'
  have counts : ∀ task, skips task _ = _ := fun task =>
    skips_finish task flight.owner flight.request result flight.opened
      system.store.db (announcements flight.request flight.nowMs result)
  refine Tallied.of_tasks (tallied.reply ?_ ?_ replied) rfl
  · intro op answer responded count
    rw [List.map_singleton, counts, if_pos rfl]
    exact replyWritten_tally responded count
  · intro task other
    rw [List.map_singleton, counts, if_neg (Ne.symm other)]

theorem Tallied.step {label : SystemLabel} (tallied : system.Tallied seen)
    (taken : machine.step system label = some (next, out)) :
    next.Tallied (seen ++ out) := by
  cases label with
  | spawn job =>
      cases taken
      rw [List.append_nil]
      refine ⟨?_, ?_⟩
      · intro task state found probing
        rcases Nat.lt_or_ge task system.tasks.length with bound | beyond
        · rw [List.getElem?_append_left bound] at found
          exact tallied.reports task state found probing
        · rw [List.getElem?_append_right beyond] at found
          have last := List.mem_of_getElem? found
          rw [List.mem_singleton] at last
          subst last
          cases probing
          rw [tallied.early task beyond]
          exact reports_probe
      · intro task beyond
        rw [List.length_append] at beyond
        exact tallied.early task (Nat.le_of_succ_le beyond)
  | begin task nowMs =>
      obtain ⟨_, _, _, _, rfl, rfl⟩ := begin_cases taken
      rw [List.append_nil]
      exact tallied.of_tasks rfl
  | transact faults =>
      obtain ⟨store, stored, transacted, rfl, rfl⟩ := lift_cases taken
      have none : ∀ task, skips task (stored.map .store) = 0 := by
        intro task
        obtain ⟨_, _, _, ⟨_, _, _, _, rfl, _⟩ | ⟨_, _, _, rfl, _⟩⟩ :=
          Store.transact_cases transacted <;> rfl
      refine ⟨?_, ?_⟩
      · intro task state found probing
        rw [skips_append, none, Nat.add_zero]
        exact tallied.reports task state found probing
      · intro task beyond
        rw [skips_append, none, Nat.add_zero]
        exact tallied.early task beyond
  | finish => exact tallied.finish taken
  | select task =>
      obtain ⟨_, replied, rfl⟩ := select_cases taken
      refine tallied.answer ?_ replied rfl
      intro op answer responded count
      cases op with
      | selectNonSentinelSessions =>
          cases responded
          rfl
      | _ => cases responded
  | refuse task error =>
      obtain ⟨_, replied, rfl⟩ := refuse_cases taken
      refine tallied.answer ?_ replied rfl
      intro op answer responded count
      cases op <;> cases responded <;> rfl
  | clock task reading =>
      obtain ⟨replied, rfl⟩ := answer_cases taken
      refine tallied.answer ?_ replied rfl
      intro op answer responded count
      cases op with
      | currentUnixMillis =>
          cases responded
          rfl
      | _ => cases responded
  | kill task result =>
      obtain ⟨replied, rfl⟩ := answer_cases taken
      refine tallied.answer ?_ replied rfl
      intro op answer responded count
      cases op with
      | kill =>
          cases responded
          rfl
      | _ => cases responded
  | cancelled task flag =>
      obtain ⟨replied, rfl⟩ := answer_cases taken
      refine tallied.answer ?_ replied rfl
      intro op answer responded count
      cases op with
      | isCancelled =>
          cases responded
          rfl
      | _ => cases responded

theorem tallied_of_run {ok : System → SystemLabel → Prop} {start : System}
    {before : List SystemSeen} (tallied : start.Tallied before)
    (run : machine.Run ok start next out) : next.Tallied (before ++ out) := by
  refine run.invariant (fun system out => system.Tallied (before ++ out)) ?_ ?_
  · rw [List.append_nil]
    exact tallied
  · intro middle next seen out label _ tallied _ taken
    rw [← List.append_assoc]
    exact tallied.step taken

theorem tallied_initial (db : Db) (hub : List BroadcastEnvelope) :
    (initial db hub).Tallied [] where
  reports := by
    intro task state found
    cases found
  early := fun _ _ => rfl

end Tallied

/-! A write that yields. -/

/-- The report that a probe has come to. -/
def report? (system : System) (task : Nat) : Option ProbeReport :=
  match system.tasks[task]? with
  | some ⟨.probe, .done report, _⟩ => report
  | _ => none

/-- The write of a flight was finished as one that is skipped. -/
def FinishedSkipped (flight : InFlight Nat) (seen : List SystemSeen) : Prop :=
  ∃ finish ∈ finishes (seen.flatMap storeSeen), finish.owner = flight.owner ∧
    finish.request = flight.request ∧ finish.result = .ok .skipped

/-- The probe's write for a session commits nothing; and if its SQL runs through,
it is one of the skipped writes, which the probe's report, should the run come to
it, has counted as stale, each once and nothing else. -/
structure Yields (before : System) (flight : InFlight Nat)
    (seen : List SystemSeen) : Prop where
  quiet : ∀ faults next out, before.step (.transact faults) = some (next, out) →
    commits (out.flatMap storeSeen) = []
  counted : ∃ written out,
    before.step (.transact FaultPlan.none) = some (written, out) ∧
    ∀ last later report, machine.Run (fun _ _ => True) written last later →
      last.report? flight.owner = some report →
      FinishedSkipped flight later ∧
        report.skippedStale = skips flight.owner (seen ++ later)

theorem report?_cases {system : System} {task : Nat} {report : ProbeReport}
    (reported : system.report? task = some report) :
    ∃ state, system.tasks[task]? = some state ∧ state.job = .probe ∧
      state.task = .done (some report) := by
  unfold report? at reported
  split at reported
  · rename_i selected found
    subst reported
    exact ⟨_, found, rfl, rfl⟩
  · cases reported

/-- In every run the report of a probe says how many of its writes were skipped. -/
theorem report_counts_skips {system : System} {task : Nat}
    {report : ProbeReport} {seen : List SystemSeen}
    (tallied : system.Tallied seen)
    (reported : system.report? task = some report) :
    report.skippedStale = skips task seen := by
  obtain ⟨state, found, probing, done⟩ := report?_cases reported
  have counts := tallied.reports task state found probing
  rw [done] at counts
  exact counts report rfl

/-- A skipped write is in flight until it is finished as such. -/
theorem skipped_step {flight : InFlight Nat} {system next : System}
    {label : SystemLabel} {out : List SystemSeen}
    (pending : system.store.inFlight =
      some { flight with result := some (.ok .skipped) })
    (taken : machine.step system label = some (next, out)) :
    next.store.inFlight = some { flight with result := some (.ok .skipped) } ∨
      FinishedSkipped flight out := by
  have replies : ∀ {task respond middle},
      system.reply task respond = some middle →
      middle.store = system.store := by
    intro task respond middle replied
    obtain ⟨_, _, _, _, _, _, _, rfl⟩ := reply_cases replied
    rfl
  cases label with
  | spawn job =>
      cases taken
      exact .inl pending
  | begin task nowMs =>
      obtain ⟨_, _, _, begun, _⟩ := begin_cases taken
      have free := (Store.begin_cases begun).1
      rw [pending] at free
      cases free
  | transact faults =>
      obtain ⟨_, _, transacted, _⟩ := lift_cases taken
      obtain ⟨_, busy, holding, _⟩ := Store.transact_cases transacted
      rw [pending] at busy
      cases busy
      cases holding
  | finish =>
      obtain ⟨_, _, _, _, _, _, _, _, finished, _, rfl⟩ := finish_cases taken
      obtain ⟨_, _, busy, settled, rfl, _⟩ := Store.finish_cases finished
      rw [pending] at busy
      cases busy
      rw [Option.some.injEq] at settled
      subst settled
      right
      rw [FinishedSkipped, flatMap_storeSeen_map, finishes_finished]
      exact ⟨_, List.mem_singleton_self _, rfl, rfl, rfl⟩
  | select task =>
      obtain ⟨_, replied, _⟩ := select_cases taken
      exact .inl (replies replied ▸ pending)
  | refuse task error =>
      obtain ⟨_, replied, _⟩ := refuse_cases taken
      exact .inl (replies replied ▸ pending)
  | clock task reading =>
      exact .inl (replies (answer_cases taken).1 ▸ pending)
  | kill task result =>
      exact .inl (replies (answer_cases taken).1 ▸ pending)
  | cancelled task flag =>
      exact .inl (replies (answer_cases taken).1 ▸ pending)

theorem FinishedSkipped.append {flight : InFlight Nat}
    {seen out : List SystemSeen} (found : FinishedSkipped flight out) :
    FinishedSkipped flight (seen ++ out) := by
  obtain ⟨finish, member, same⟩ := found
  refine ⟨finish, ?_, same⟩
  rw [List.flatMap_append, finishes_append]
  exact List.mem_append_right _ member

/-- A probe that has come to its report is no longer at a write. -/
theorem finishedSkipped_of_run {flight : InFlight Nat} {written last : System}
    {later : List SystemSeen} {report : ProbeReport}
    (sound : written.Sound fun _ => True)
    (pending : written.store.inFlight =
      some { flight with result := some (.ok .skipped) })
    (run : machine.Run (fun _ _ => True) written last later)
    (reported : last.report? flight.owner = some report) :
    FinishedSkipped flight later := by
  have held := run.invariant (fun system later =>
    system.Sound (fun _ => True) ∧
      (system.store.inFlight =
          some { flight with result := some (.ok .skipped) } ∨
        FinishedSkipped flight later))
    ⟨sound, .inl pending⟩ (by
      intro middle next seen out label _ holds _ taken
      refine ⟨holds.1.step (fun _ _ _ _ => trivial) taken, ?_⟩
      rcases holds.2 with pending | ⟨finish, member, same⟩
      · exact (skipped_step pending taken).imp_right FinishedSkipped.append
      · refine .inr ⟨finish, ?_, same⟩
        rw [List.flatMap_append, finishes_append]
        exact List.mem_append_left _ member)
  rcases held.2 with pending | finished
  · obtain ⟨state, op, resume, found, waiting, _⟩ :=
      request?_cases (held.1.flight _ pending)
    obtain ⟨state', found', _, done⟩ := report?_cases reported
    rw [found, Option.some.injEq] at found'
    subst found'
    rw [waiting] at done
    cases done
  · exact finished

/-- A probe about to write: what it read, what has been committed since, and what
has been counted. -/
structure ProbeWrite (db : Db) (seen late : List SystemSeen) (system : System)
    (rows : List Db.ProjectionRow) (flight : InFlight Nat)
    (envelope : EventEnvelope) : Prop where
  sound : system.Sound fun _ => True
  tallied : system.Tallied seen
  busy : system.store.inFlight = some flight
  holding : flight.result = none
  ends : ∃ precondition,
    flight.request = .event envelope (some precondition) ∧
    ∃ row ∈ rows, endsRow false envelope precondition row
  rows : rows = db.selectNonSentinelSessions
  wellFormed : db.WellFormed
  chained : Chained db (commits (late.flatMap storeSeen)) system.store.db

theorem probeWrite_of_run {ok : System → SystemLabel → Prop} {db : Db}
    {hub : List BroadcastEnvelope} {final : System}
    {early late : List SystemSeen} {task : Nat} {rows : List Db.ProjectionRow}
    (run : machine.Run ok (initial db hub) final
      (early ++ .selected task rows :: late))
    (wellFormed : db.WellFormed)
    {state : TaskState} (found : final.tasks[task]? = some state)
    (probing : state.job = .probe)
    {flight : InFlight Nat} (busy : final.store.inFlight = some flight)
    (owner : flight.owner = task) (holding : flight.result = none)
    {envelope : EventEnvelope} {precondition : WritePrecondition}
    (asks : flight.request = .event envelope (some precondition)) :
    ∃ selectDb, ProbeWrite selectDb (early ++ .selected task rows :: late) late
      final rows flight envelope := by
  have sound := sound_initial (fun _ => True) db hub
  have tallied := tallied_of_run (tallied_initial db hub) run
  obtain ⟨before, label, after, first, _, taken, second⟩ :=
    run.split step_atMostOne rfl
  obtain ⟨taken, scan⟩ := select_of_seen taken
  obtain ⟨free, replied, _⟩ := select_cases taken
  have kept : after.store = before.store := by
    obtain ⟨_, _, _, _, _, _, _, rfl⟩ := reply_cases replied
    rfl
  have beforeSound := sound_of_run first sound fun _ _ _ _ _ => trivial
  have afterSound := beforeSound.step (fun _ _ _ _ => trivial) taken
  have finalSound := sound_of_run second afterSound fun _ _ _ _ _ => trivial
  have scanned : final.Scanned task rows := by
    refine (second.invariant
      (fun system _ => system.Sound (fun _ => True) ∧
        system.Scanned task rows)
      ⟨afterSound, scan ▸ scanned_of_select taken⟩ ?_).2
    intro middle next _ _ label _ holds _ step
    exact ⟨holds.1.step (fun _ _ _ _ => trivial) step,
      holds.2.step holds.1 step⟩
  have opened := (ledger_of_run
    (run_store first sound fun _ _ _ _ _ => trivial) wellFormed
    rfl).chained.wellFormed wellFormed
  have later := (ledger_of_run
    (run_store second afterSound fun _ _ _ _ _ => trivial)
    (kept ▸ opened) (kept ▸ free)).chained
  rw [kept] at later
  refine ⟨before.store.db, finalSound, tallied, busy, holding,
    ⟨precondition, asks, ?_⟩, scan, opened, later⟩
  obtain ⟨state', found', selected⟩ := scanned
  rw [found] at found'
  cases found'
  obtain ⟨_, op, resume, found', waiting, asked⟩ :=
    request?_cases (finalSound.flight flight busy)
  rw [owner, found] at found'
  cases found'
  have obeys := finalSound.obeys state (List.mem_of_getElem? found)
  rw [waiting] at obeys
  have allowed : (scanMonitor state.job.envelope? state.job.pins).allowed
    state.selected op := obeys.1
  rw [probing] at allowed
  rw [asks] at asked
  cases op with
  | writeInner _ _ =>
      cases asked
      obtain ⟨rows', memory, row, member, ends⟩ := allowed
      rw [selected] at memory
      cases memory
      exact ⟨row, member, ends⟩
  | _ => cases asked

/-- A conditional write that is not admitted is one that is skipped. -/
theorem yields_iff {system : System} {flight : InFlight Nat}
    {seen : List SystemSeen} {envelope : EventEnvelope}
    {precondition : WritePrecondition} (sound : system.Sound fun _ => True)
    (tallied : system.Tallied seen)
    (busy : system.store.inFlight = some flight)
    (holding : flight.result = none)
    (asks : flight.request = .event envelope (some precondition)) :
    system.Yields flight seen ↔
      preconditionAdmits (some precondition)
        (system.store.db.stored envelope.key) = false := by
  have done := Store.transact_none busy holding
  constructor
  · intro yields
    by_contra admitted
    rw [Bool.not_eq_false] at admitted
    have taken : system.step (.transact FaultPlan.none) =
        system.lift (some _) := congrArg system.lift done
    have nothing := yields.quiet FaultPlan.none _ _ taken
    simp [asks, WriteRequest.outcome, admitted, committing,
      storeSeen] at nothing
  · intro refused
    have outcome : flight.request.outcome flight.nowMs system.store.db =
        (.ok .skipped, none) := by
      simp [asks, WriteRequest.outcome, refused]
    constructor
    · intro faults next out taken
      obtain ⟨store, seen, transacted, _, rfl⟩ := lift_cases taken
      rw [flatMap_storeSeen_map]
      obtain ⟨flight', busy', _, ⟨_, _, commits', _⟩ | ⟨_, _, _, rfl, _⟩⟩ :=
        Store.transact_cases transacted
      · rw [busy] at busy'
        cases busy'
        rw [outcome] at commits'
        cases commits'
      · rfl
    · rw [outcome] at done
      have taken : system.step (.transact FaultPlan.none) = some ({ system with
          store := { system.store with
            inFlight := some { flight with result := some (.ok .skipped) } } },
          []) := congrArg system.lift done
      refine ⟨_, _, taken, ?_⟩
      intro last later report run reported
      have soundAfter := Sound.step sound (fun _ _ _ _ => trivial) taken
      have moved : machine.step system (.transact FaultPlan.none) = _ := taken
      have talliedAfter := tallied.step moved
      rw [List.append_nil] at talliedAfter
      exact ⟨finishedSkipped_of_run soundAfter rfl run reported,
        report_counts_skips (tallied_of_run talliedAfter run) reported⟩

theorem ProbeWrite.yields {db : Db} {seen late : List SystemSeen}
    {system : System} {rows : List Db.ProjectionRow} {flight : InFlight Nat}
    {envelope : EventEnvelope}
    (write : ProbeWrite db seen late system rows flight envelope) :
    system.Yields flight seen ↔ Moved late rows envelope.key := by
  obtain ⟨precondition, asks, row, member, kind, key, state, json, live, _, _,
    rfl⟩ := write.ends
  have rowMember := member
  rw [write.rows, Db.mem_selectNonSentinelSessions] at rowMember
  obtain ⟨rowMember, user⟩ := rowMember
  have user : envelope.key.isSentinel = false := by
    rw [key]
    exact SessionKey.isSentinel_eq_false.mpr user
  have lookup : db.projection row.key = some row :=
    KeyedTable.lookup_of_mem write.wellFormed.keyed rowMember
  have selected : db.stored envelope.key = some state := by
    rw [key, Db.stored, Db.selectSessionProjectionState, lookup]
    simp [json, Db.StateText.parse]
  have stored := write.chained.stored user selected
  rw [yields_iff write.sound write.tallied write.busy write.holding asks, stored]
  have admits (now : SessionState) :
      preconditionAdmits (some {
        expectedCurrentState := state.currentState
        expectedLastPid := state.lastPid
        expectedLastEventAtMs := if false then some state.lastEventAtMs
          else none }) (some now) = false ↔
        now.currentState ≠ state.currentState ∨ now.lastPid ≠ state.lastPid := by
    simp [preconditionAdmits, WritePrecondition.admits]
    tauto
  rw [admits]
  constructor
  · intro moved other otherMember same read otherJson
    rw [write.rows, Db.mem_selectNonSentinelSessions] at otherMember
    have again : db.projection row.key = some other :=
      (key ▸ same) ▸ KeyedTable.lookup_of_mem write.wellFormed.keyed
        otherMember.1
    rw [lookup] at again
    cases again
    rw [json] at otherJson
    cases otherJson
    exact moved
  · intro moved
    exact moved row member key.symm state json

/-- When a probe's write for a session comes to its transaction, the hooks that
were committed since the scan win, and the row counts as skipped, exactly if they
moved the session away from the state or the pid that the scan read. -/
theorem probe_yields_iff {ok : System → SystemLabel → Prop} {db : Db}
    {hub : List BroadcastEnvelope} {final : System}
    {early late : List SystemSeen} {task : Nat} {rows : List Db.ProjectionRow}
    (run : machine.Run ok (initial db hub) final
      (early ++ .selected task rows :: late))
    (wellFormed : db.WellFormed)
    {state : TaskState} (found : final.tasks[task]? = some state)
    (probing : state.job = .probe)
    {flight : InFlight Nat} (busy : final.store.inFlight = some flight)
    (owner : flight.owner = task) (holding : flight.result = none)
    {envelope : EventEnvelope} {precondition : WritePrecondition}
    (asks : flight.request = .event envelope (some precondition)) :
    (HookBetween late envelope.key →
        final.Yields flight (early ++ .selected task rows :: late)) ↔
      (HookBetween late envelope.key → Moved late rows envelope.key) := by
  obtain ⟨selectDb, write⟩ := probeWrite_of_run run wellFormed found probing
    busy owner holding asks
  rw [write.yields]

/-! A session without a pid keeps working: its second hook leaves state and pid
as they were, and the probe ends it all the same. -/

def hookAfterScan (kind : EventKind) : List SystemLabel :=
  [.spawn (.hook (bareHook "a" .preToolUse none)), .begin 0 1000,
    .transact FaultPlan.none, .finish,
    .spawn .probe, .select 1, .clock 1 (.ok 2000), .cancelled 1 false,
    .spawn (.hook (bareHook "a" kind none)), .begin 2 2001,
    .transact FaultPlan.none, .finish, .begin 1 2002]

/-- A Stop moves the session, and the probe counts the row as stale. -/
example : ((machine.exec (initial Db.empty []) (hookAfterScan .stop ++
    [.transact FaultPlan.none, .finish])).bind (·.1.report? 1)) =
      some { emitted := 0, failed := 0, skippedStale := 1 } := by
  decide

/-- The probe's write is in flight, a hook of its session has been committed since
the scan, and the transaction makes so many commits. -/
def atProbeWrite (committed : Nat) (result : System × List SystemSeen) : Bool :=
  match result.2, result.1.store.inFlight,
    (result.1.tasks[1]? : Option TaskState) with
  | [.store _, .store _, .selected 1 _, .store (.committed hook), .store _],
    some ⟨1, .event envelope (some _), _, _, none⟩, some ⟨.probe, _, _⟩ =>
      hook.key == envelope.key && !synthetic hook &&
        match result.1.step (.transact FaultPlan.none) with
        | some (_, out) => (commits (out.flatMap storeSeen)).length == committed
        | none => false
  | _, _, _ => false

theorem atProbeWrite_spec {committed : Nat}
    {result : System × List SystemSeen}
    (checked : atProbeWrite committed result = true) :
    ∃ early late rows state flight envelope precondition,
      result.2 = early ++ .selected 1 rows :: late ∧
      result.1.tasks[1]? = some state ∧ state.job = .probe ∧
      result.1.store.inFlight = some flight ∧ flight.owner = 1 ∧
      flight.result = none ∧
      flight.request = .event envelope (some precondition) ∧
      HookBetween late envelope.key ∧
      ∃ next out, result.1.step (.transact FaultPlan.none) = some (next, out) ∧
        (commits (out.flatMap storeSeen)).length = committed := by
  unfold atProbeWrite at checked
  split at checked
  · rename_i first second rows hook last envelope precondition nowMs opened
      task selected trace busy found
    rw [Bool.and_eq_true, Bool.and_eq_true] at checked
    obtain ⟨⟨same, own⟩, count⟩ := checked
    split at count
    · rename_i next out taken
      refine ⟨[.store first, .store second],
        [.store (.committed hook), .store last], rows, _, _, envelope,
        precondition, trace, found, rfl, busy, rfl, rfl, rfl, ?_, next, out,
        taken, by simpa using count⟩
      refine ⟨hook, ?_, by simpa using same, by simpa using own⟩
      simp [storeSeen, commits, StoreSeen.commit?]
    · cases count
  · cases checked

/-- The claim that hooks always win fails: a hook is committed between the scan
and the write, and the write commits. -/
theorem probe_overrides_hook :
    ∃ (final : System) (early late : List SystemSeen)
      (rows : List Db.ProjectionRow) (state : TaskState)
      (flight : InFlight Nat) (envelope : EventEnvelope)
      (precondition : WritePrecondition),
      machine.Run (fun _ _ => True) (initial Db.empty []) final
        (early ++ .selected 1 rows :: late) ∧
      final.tasks[1]? = some state ∧ state.job = .probe ∧
      final.store.inFlight = some flight ∧ flight.owner = 1 ∧
      flight.result = none ∧
      flight.request = .event envelope (some precondition) ∧
      HookBetween late envelope.key ∧
      ¬ final.Yields flight (early ++ .selected 1 rows :: late) := by
  have ⟨final, seen, run, checked⟩ := Machine.exec_check
    (machine.execMeets_true (initial Db.empty []) (hookAfterScan .postToolUse))
    (atProbeWrite 1) (by decide)
  obtain ⟨early, late, rows, state, flight, envelope, precondition, trace,
    found, probing, busy, owner, holding, asks, hook, next, out, taken,
    count⟩ := atProbeWrite_spec checked
  cases trace
  refine ⟨final, early, late, rows, state, flight, envelope, precondition, run,
    found, probing, busy, owner, holding, asks, hook, fun yields => ?_⟩
  rw [yields.quiet _ next out taken] at count
  cases count

theorem probe_yields_iff_stop :
    ∃ (final : System) (early late : List SystemSeen)
      (rows : List Db.ProjectionRow) (flight : InFlight Nat)
      (envelope : EventEnvelope),
      HookBetween late envelope.key ∧
      ((HookBetween late envelope.key →
          final.Yields flight (early ++ .selected 1 rows :: late)) ↔
        (HookBetween late envelope.key → Moved late rows envelope.key)) := by
  have ⟨final, seen, run, checked⟩ := Machine.exec_check
    (machine.execMeets_true (initial Db.empty []) (hookAfterScan .stop))
    (atProbeWrite 0) (by decide)
  obtain ⟨early, late, rows, state, flight, envelope, precondition, trace,
    found, probing, busy, owner, holding, asks, hook, _⟩ :=
    atProbeWrite_spec checked
  cases trace
  exact ⟨final, early, late, rows, flight, envelope, hook,
    probe_yields_iff run Db.wellFormed_empty found probing busy owner holding
      asks⟩

end System

end Bowerbird.Daemon
