import Bowerbird.Daemon.System

namespace Bowerbird.Daemon

open Protocol Foundation Projection

/-! Where envelopes and rows come from.  What holds of every envelope brought in
from outside, and survives the fold and the scans, holds of everything the
writing side ever commits. -/

variable (good : EventEnvelope → Prop) (holds : Db.ProjectionRow → Prop)

/-- A property of envelopes and one of rows that a write and a scan pass on. -/
structure PassedOn : Prop where
  ends : ∀ {pins : Bool} {envelope : EventEnvelope}
    {precondition : WritePrecondition} {row : Db.ProjectionRow},
    row.source ≠ "__daemon__" → holds row →
      endsRow pins envelope precondition row → good envelope
  writes : ∀ {envelope : EventEnvelope} {db : Db} {nowMs : Int},
    good envelope → (∀ row ∈ db.projections, holds row) →
      holds { source := envelope.source
              sessionId := envelope.sessionId
              state := .json
                (envelopeTransition envelope (db.stored envelope.key) nowMs)
              updatedAt := nowMs }
  marks : ∀ {nowMs : Int},
    holds { source := daemonSentinelSource
            sessionId := daemonSentinelSession
            state := .other emptyPayload
            updatedAt := nowMs }

def GoodRequest : WriteRequest → Prop
  | .event envelope _ => good envelope
  | .recordingStarted | .recordingEnded _ => True

section

variable {good holds}

/-- What a good request leaves in the projection table. -/
theorem PassedOn.appends (passed : PassedOn good holds)
    {request : WriteRequest} {nowMs : Int} {db after : Db}
    (asked : GoodRequest good request)
    (rows : ∀ row ∈ db.projections, holds row)
    (appends : request.Appends nowMs db after) :
    ∀ row ∈ after.projections, holds row := by
  intro row member
  rw [appends.projections] at member
  rcases KeyedTable.mem_upsert member with rfl | member
  · cases request with
    | event envelope precondition => exact passed.writes asked rows
    | recordingStarted => exact passed.marks
    | recordingEnded recordingSessionId => exact passed.marks
  · exact rows row member

end

namespace System

/-- Every remembered row is one that a scan has read. -/
def Sighted (system : System) : Prop :=
  ∀ state ∈ system.tasks, ∀ rows, state.selected = some rows →
    ∀ row ∈ rows, row.source ≠ "__daemon__" ∧ holds row

structure Flows (system : System) (seen : List (StoreSeen Nat)) : Prop where
  sound : system.Sound good
  sighted : system.Sighted holds
  rows : ∀ row ∈ system.store.db.projections, holds row
  flight : ∀ flight, system.store.inFlight = some flight →
    GoodRequest good flight.request
  commits : ∀ commit ∈ commits seen, GoodRequest good commit.request

section Flows

variable {good holds} {system next : System} {seen : List (StoreSeen Nat)}
variable {task : Nat} {label : SystemLabel} {out : List SystemSeen}

theorem Sighted.reply {respond : (op : Op) → Option op.Answer}
    (sighted : system.Sighted holds)
    (selects : ∀ rows, respond .selectNonSentinelSessions = some (.ok rows) →
      ∀ row ∈ rows, row.source ≠ "__daemon__" ∧ holds row)
    (replied : system.reply task respond = some next) :
    next.Sighted holds := by
  obtain ⟨state, op, resume, answer, found, _, responded, rfl⟩ :=
    reply_cases replied
  have before := sighted state (List.mem_of_getElem? found)
  intro other member rows selected
  rcases List.mem_or_eq_of_mem_set member with member | rfl
  · exact sighted other member rows selected
  · cases op with
    | selectNonSentinelSessions =>
        cases answer with
        | ok rows =>
            cases selected
            exact selects rows responded
        | error error => exact before rows selected
    | _ => exact before rows selected

/-- A request is for an envelope brought in, or for the end of a row read. -/
theorem Flows.asks (flows : system.Flows good holds seen)
    (passed : PassedOn good holds) {request : WriteRequest}
    (asks : system.request? task = some request) :
    GoodRequest good request := by
  obtain ⟨state, op, resume, found, waiting, asked⟩ := request?_cases asks
  have member := List.mem_of_getElem? found
  have obeys := flows.sound.obeys state member
  rw [waiting] at obeys
  have allowed := obeys.1
  cases op with
  | writeInner envelope precondition =>
      cases asked
      cases precondition with
      | none => exact flows.sound.brought state member envelope allowed
      | some precondition =>
          obtain ⟨rows, selected, row, inside, ended⟩ := allowed
          obtain ⟨user, held⟩ :=
            flows.sighted state member rows selected row inside
          exact passed.ends user held ended
  | writeRecordingStarted => cases asked; exact trivial
  | writeRecordingEnded recordingSessionId => cases asked; exact trivial
  | selectNonSentinelSessions => cases asked
  | currentUnixMillis => cases asked
  | kill pid => cases asked
  | isCancelled => cases asked

/-- A reply that leaves the store alone. -/
theorem Flows.replied (flows : system.Flows good holds seen)
    {respond : (op : Op) → Option op.Answer}
    (selects : ∀ rows, respond .selectNonSentinelSessions = some (.ok rows) →
      ∀ row ∈ rows, row.source ≠ "__daemon__" ∧ holds row)
    (sound : next.Sound good)
    (replied : system.reply task respond = some next) :
    next.Flows good holds seen := by
  have sighted := flows.sighted.reply selects replied
  obtain ⟨_, _, _, _, _, _, _, rfl⟩ := reply_cases replied
  exact {
    sound
    sighted
    rows := flows.rows
    flight := flows.flight
    commits := flows.commits }

theorem Flows.step (flows : system.Flows good holds seen)
    (passed : PassedOn good holds)
    (brings : ∀ job, label = .spawn job →
      ∀ envelope, job.envelope? = some envelope → good envelope)
    (taken : system.step label = some (next, out)) :
    next.Flows good holds (seen ++ out.flatMap storeSeen) := by
  have sound := flows.sound.step brings taken
  cases label with
  | spawn job =>
      cases taken
      rw [List.flatMap_nil, List.append_nil]
      exact {
        sound
        sighted := by
          intro state member rows selected
          rcases List.mem_append.mp member with member | member
          · exact flows.sighted state member rows selected
          · rw [List.mem_singleton] at member
            subst member
            cases selected
        rows := flows.rows
        flight := flows.flight
        commits := flows.commits }
  | begin task nowMs =>
      obtain ⟨request, store, asks, begun, rfl, rfl⟩ := begin_cases taken
      obtain ⟨_, _, _, rfl⟩ := Store.begin_cases begun
      rw [List.flatMap_nil, List.append_nil]
      exact {
        sound
        sighted := flows.sighted
        rows := flows.rows
        flight := by
          rintro _ ⟨rfl⟩
          exact flows.asks passed asks
        commits := flows.commits }
  | transact faults =>
      obtain ⟨store, out, transacted, rfl, rfl⟩ := lift_cases taken
      rw [flatMap_storeSeen_map]
      obtain ⟨flight, busy, _, ⟨result, db, outcome, _, rfl, rfl⟩ |
        ⟨_, _, _, rfl, rfl⟩⟩ := Store.transact_cases transacted
      · have asked := flows.flight flight busy
        exact {
          sound
          sighted := flows.sighted
          rows := passed.appends asked flows.rows
            (WriteRequest.outcome_appends (by rw [outcome]))
          flight := by
            rintro _ ⟨rfl⟩
            exact asked
          commits := by
            intro commit member
            rw [commits_append, commits_committed, List.mem_append,
              List.mem_singleton] at member
            rcases member with member | rfl
            · exact flows.commits commit member
            · exact asked }
      · rw [List.append_nil]
        exact {
          sound
          sighted := flows.sighted
          rows := flows.rows
          flight := by
            rintro _ ⟨rfl⟩
            exact flows.flight flight busy
          commits := flows.commits }
  | finish =>
      obtain ⟨flight, result, middle, store, out, busy, settled, replied,
        finished, rfl, rfl⟩ := finish_cases taken
      rw [flatMap_storeSeen_map]
      have sighted := flows.sighted.reply (by intro rows answered; cases answered) replied
      obtain ⟨_, _, _, _, rfl, rfl⟩ := Store.finish_cases finished
      exact {
        sound
        sighted
        rows := flows.rows
        flight := by rintro _ ⟨⟩
        commits := by simpa using flows.commits }
  | select task =>
      obtain ⟨_, replied, rfl⟩ := select_cases taken
      rw [List.flatMap_cons, List.flatMap_nil]
      refine (List.append_nil seen).symm ▸ flows.replied ?_ sound replied
      intro rows answered row member
      cases answered
      obtain ⟨inside, user⟩ := Db.mem_selectNonSentinelSessions.mp member
      exact ⟨user, flows.rows row inside⟩
  | refuse task error =>
      obtain ⟨_, replied, rfl⟩ := refuse_cases taken
      rw [List.flatMap_nil, List.append_nil]
      exact flows.replied (by intro rows answered; cases answered)
        sound replied
  | clock task reading =>
      obtain ⟨replied, rfl⟩ := answer_cases taken
      rw [List.flatMap_nil, List.append_nil]
      exact flows.replied (by intro rows answered; cases answered)
        sound replied
  | kill task result =>
      obtain ⟨replied, rfl⟩ := answer_cases taken
      rw [List.flatMap_nil, List.append_nil]
      exact flows.replied (by intro rows answered; cases answered)
        sound replied
  | cancelled task flag =>
      obtain ⟨replied, rfl⟩ := answer_cases taken
      rw [List.flatMap_nil, List.append_nil]
      exact flows.replied (by intro rows answered; cases answered)
        sound replied

variable {ok : System → SystemLabel → Prop} {start final : System}
variable {trace : List SystemSeen}

theorem flows_of_run (run : machine.Run ok start final trace)
    (passed : PassedOn good holds) (initially : start.Flows good holds [])
    (brings : ∀ system job, ok system (.spawn job) →
      ∀ envelope, job.envelope? = some envelope → good envelope) :
    final.Flows good holds (trace.flatMap storeSeen) := by
  refine run.invariant
    (fun system trace => system.Flows good holds (trace.flatMap storeSeen))
    initially ?_
  intro middle next before out label _ flows allowed taken
  rw [List.flatMap_append]
  refine flows.step passed ?_ taken
  rintro job rfl
  exact brings middle job allowed

theorem flows_initial {db : Db} {hub : List BroadcastEnvelope}
    (rows : ∀ row ∈ db.projections, holds row) :
    (initial db hub).Flows good holds [] where
  sound := sound_initial good db hub
  sighted := by simp [Sighted, initial]
  rows := rows
  flight := by rintro _ ⟨⟩
  commits := by simp

end Flows

end System

end Bowerbird.Daemon
