import Bowerbird.Foundation.Interaction
import Bowerbird.Projection.Session

namespace Bowerbird.Projection

open Protocol Foundation

/-! The daemon's writing tasks as programs.  What a task awaits is an operation;
between two operations nothing else of the daemon runs. -/

/-- `kill(pid, 0)`, by what it tells about the process. -/
inductive KillResult where
  | ok
  | eperm
  | esrch
  | otherErrno
  deriving Repr, DecidableEq

structure RecordingStarted where
  eventId : Int
  recordingSessionId : Int
  deriving Repr, DecidableEq

inductive Op where
  | writeInner (envelope : EventEnvelope)
      (precondition : Option WritePrecondition)
  | writeRecordingStarted
  | writeRecordingEnded (recordingSessionId : Int)
  | selectNonSentinelSessions
  | currentUnixMillis
  | kill (pid : Nat)
  | isCancelled
  deriving Repr, DecidableEq

abbrev Op.Answer : Op → Type
  | .writeInner .. => Except Error (Option Int)
  | .writeRecordingStarted => Except Error RecordingStarted
  | .writeRecordingEnded _ => Except Error Int
  | .selectNonSentinelSessions => Except Error (List Db.ProjectionRow)
  | .currentUnixMillis => Except Error Int
  | .kill _ => KillResult
  | .isCancelled => Bool

abbrev Async (Result : Type) := Program Op Op.Answer Result

def writeInner (envelope : EventEnvelope)
    (precondition : Option WritePrecondition) :
    Async (Except Error (Option Int)) :=
  Program.query (Op.writeInner envelope precondition)

def selectNonSentinelSessions : Async (Except Error (List Db.ProjectionRow)) :=
  Program.query Op.selectNonSentinelSessions

def currentUnixMillis : Async (Except Error Int) :=
  Program.query Op.currentUnixMillis

def kill (pid : Nat) : Async KillResult :=
  Program.query (Op.kill pid)

def isCancelled : Async Bool :=
  Program.query Op.isCancelled

/-- The write that an operation puts to the store, if it is one. -/
def Op.request? : Op → Option WriteRequest
  | .writeInner envelope precondition => some (.event envelope precondition)
  | .writeRecordingStarted => some .recordingStarted
  | .writeRecordingEnded recordingSessionId =>
      some (.recordingEnded recordingSessionId)
  | _ => none

inductive EndedReason where
  | noPidAtUpgrade
  | pidDead
  | pidSuperseded
  deriving Repr, DecidableEq

def EndedReason.toWire : EndedReason → String
  | noPidAtUpgrade => "no_pid_at_upgrade"
  | pidDead => "pid_dead"
  | pidSuperseded => "pid_superseded"

/-- The JSON text of a synthetic event's payload. -/
def endedPayload (reason : EndedReason) (pid : Option Nat)
    (observedAtMs : Int) : String :=
  "\x7b\"reason\":\"" ++ reason.toWire ++ "\",\"pid\":" ++
    (match pid with
      | some pid => Nat.repr pid
      | none => "null") ++
    ",\"observed_at_ms\":" ++ Int.repr observedAtMs ++ "\x7d"

/-- The synthetic end of a session, as the scan saw its row. -/
def endedEnvelope (key : SessionKey) (reason : EndedReason) (pid : Option Nat)
    (observedAtMs : Int) : EventEnvelope :=
  { source := key.source
    sessionId := key.sessionId
    kind := .sessionEnded
    reaction := none
    payload := endedPayload reason pid observedAtMs
    pid
    notificationType := none
    cwd := none }

def writeIfStateMatches (envelope : EventEnvelope)
    (precondition : WritePrecondition) : Async (Except Error (Option Int)) :=
  writeInner envelope (some precondition)

def writeCommitted (envelope : EventEnvelope) : Async (Except Error Int) := do
  match ← writeInner envelope none with
  | .error error => return .error error
  | .ok (some eventId) => return .ok eventId
  | .ok none =>
      return .error
        (.projection "write() with no precondition unexpectedly skipped")

def writeReplayed (envelope : EventEnvelope) : Async (Except Error Int) :=
  writeCommitted envelope

/-- One row of the supersession scan: a live predecessor on `pid` is ended, on
condition that its row is still as it was read. -/
def supersedeRow (successor : SessionKey) (pid : Nat) (observedAtMs : Int)
    (row : Db.ProjectionRow) : Async Unit :=
  if row.key = successor then pure ()
  else
    match row.state.parse with
    | none => pure ()
    | some stored =>
        if stored.currentState = .ended ∨ stored.lastPid ≠ some pid then pure ()
        else do
          let _ ← writeIfStateMatches
            (endedEnvelope row.key .pidSuperseded (some pid) observedAtMs)
            { expectedCurrentState := stored.currentState
              expectedLastPid := some pid
              expectedLastEventAtMs := some stored.lastEventAtMs }
          return ()

/-- Failures are the scan's own affair: the primary write has succeeded. -/
def supersedePredecessors (successor : SessionKey) (pid : Nat) : Async Unit := do
  match ← selectNonSentinelSessions with
  | .error _ => return ()
  | .ok rows =>
      match ← currentUnixMillis with
      | .error _ => return ()
      | .ok observedAtMs =>
          Program.each (supersedeRow successor pid observedAtMs) rows

def write (envelope : EventEnvelope) : Async (Except Error Int) := do
  match ← writeCommitted envelope with
  | .error error => return .error error
  | .ok eventId =>
      match envelope.pid with
      | none => return .ok eventId
      | some pid =>
          if envelope.kind = .sessionEnded then return .ok eventId
          else do
            supersedePredecessors envelope.key pid
            return .ok eventId

structure ProbeReport where
  emitted : Nat
  failed : Nat
  skippedStale : Nat
  deriving Repr, DecidableEq

def ProbeReport.default : ProbeReport :=
  { emitted := 0, failed := 0, skippedStale := 0 }

/-- A process that may not be signalled is there; a pid that is out of range for
the system call is not. -/
def isPidAlive (pid : Nat) : Async Bool :=
  if pid < 2 ^ 31 then do
    match ← kill pid with
    | .ok | .eperm => return true
    | .esrch | .otherErrno => return false
  else pure false

def probeReason (lastPid : Option Nat) : Async (Option EndedReason) :=
  match lastPid with
  | none => pure (some .noPidAtUpgrade)
  | some pid => do
      if ← isPidAlive pid then return none
      else return some .pidDead

/-- How the answer to a conditional write is counted. -/
def ProbeReport.count (report : ProbeReport) :
    Except Error (Option Int) → ProbeReport
  | .ok (some _) => { report with emitted := report.emitted + 1 }
  | .ok none => { report with skippedStale := report.skippedStale + 1 }
  | .error _ => { report with failed := report.failed + 1 }

def probeRow (observedAtMs : Int) (row : Db.ProjectionRow)
    (report : ProbeReport) : Async ProbeReport :=
  match row.state.parse with
  | none => pure report
  | some stored =>
      if stored.currentState = .ended then pure report
      else do
        match ← probeReason stored.lastPid with
        | none => return report
        | some reason =>
            let answer ← writeIfStateMatches
              (endedEnvelope row.key reason stored.lastPid observedAtMs)
              { expectedCurrentState := stored.currentState
                expectedLastPid := stored.lastPid
                expectedLastEventAtMs := none }
            return report.count answer

/-- Shutdown is polled before each row. -/
def probeRows (observedAtMs : Int) :
    List Db.ProjectionRow → ProbeReport → Async ProbeReport
  | [], report => pure report
  | row :: rest, report => do
      if ← isCancelled then return report
      else do
        let report ← probeRow observedAtMs row report
        probeRows observedAtMs rest report

def probeOnce : Async (Except Error ProbeReport) := do
  match ← selectNonSentinelSessions with
  | .error error => return .error error
  | .ok rows =>
      match ← currentUnixMillis with
      | .error error => return .error error
      | .ok observedAtMs => do
          let report ← probeRows observedAtMs rows ProbeReport.default
          return .ok report

/-! What the scans ask for.  A conditional write is the end of a row that its own
scan read as not ended, with that row's state and pid as its condition; whether
the row's time is pinned too is up to the scan. -/

def endsRow (pins : Bool) (envelope : EventEnvelope)
    (precondition : WritePrecondition) (row : Db.ProjectionRow) : Prop :=
  envelope.kind = .sessionEnded ∧ envelope.key = row.key ∧
    ∃ stored, row.state = .json stored ∧ stored.currentState ≠ .ended ∧
      envelope.pid = stored.lastPid ∧ envelope.cwd = none ∧
      precondition = {
        expectedCurrentState := stored.currentState
        expectedLastPid := stored.lastPid
        expectedLastEventAtMs :=
          if pins then some stored.lastEventAtMs else none }

/-- Remembers the rows of the scan, of which there is one at most.  The only
unconditional write is that of the task's own envelope. -/
def scanMonitor (primary : Option EventEnvelope) (pins : Bool) :
    Program.Monitor Op Op.Answer where
  Memory := Option (List Db.ProjectionRow)
  allowed memory op :=
    match op with
    | .writeInner envelope none => primary = some envelope
    | .writeInner envelope (some precondition) =>
        ∃ rows, memory = some rows ∧
          ∃ row ∈ rows, endsRow pins envelope precondition row
    | .selectNonSentinelSessions => memory = none
    | _ => True
  remember memory op answer :=
    match op, answer with
    | .selectNonSentinelSessions, .ok rows => some rows
    | _, _ => memory

theorem parse_json {text : Db.StateText} {state : SessionState}
    (parsed : text.parse = some state) : text = .json state := by
  cases text with
  | json other => cases parsed; rfl
  | other text => cases parsed

theorem stored_row {db : Db} {key : SessionKey} {state : SessionState}
    (stored : db.stored key = some state) :
    ∃ row ∈ db.projections, row.key = key ∧ row.state = .json state := by
  obtain ⟨text, found, parsed⟩ := Option.bind_eq_some_iff.mp stored
  obtain ⟨row, lookup, rfl⟩ := Option.map_eq_some_iff.mp found
  exact ⟨row, KeyedTable.lookup_mem lookup, KeyedTable.lookup_key lookup,
    parse_json parsed⟩

section Obeys

variable {primary : Option EventEnvelope} {pins : Bool}
variable {rows : List Db.ProjectionRow}
variable {memory : Option (List Db.ProjectionRow)}

theorem writeCommitted_obeys (envelope : EventEnvelope) :
    (writeCommitted envelope).Obeys (scanMonitor (some envelope) pins)
      (fun after _ => after = memory) memory := by
  refine Program.Obeys.ask _ (by exact rfl) fun answer => ?_
  rcases answer with error | _ | eventId <;> exact rfl

theorem supersedeRow_obeys {successor : SessionKey} {pid : Nat}
    {observedAtMs : Int} {row : Db.ProjectionRow} (member : row ∈ rows) :
    (supersedeRow successor pid observedAtMs row).Obeys (scanMonitor primary true)
      (fun after _ => after = some rows) (some rows) := by
  unfold supersedeRow
  split
  · exact rfl
  · split
    · exact rfl
    · rename_i stored parsed
      split
      · exact rfl
      · rename_i live
        rw [not_or, not_not] at live
        refine Program.Obeys.ask _ ⟨rows, rfl, row, member, rfl, rfl, stored,
          parse_json parsed, live.1, live.2.symm, rfl, ?_⟩ fun _ => rfl
        simp [live.2]

theorem supersedePredecessors_obeys (successor : SessionKey) (pid : Nat) :
    (supersedePredecessors successor pid).Obeys (scanMonitor primary true)
      (fun _ _ => True) none := by
  refine Program.Obeys.ask _ (by exact rfl) fun answer => ?_
  cases answer with
  | error error => exact trivial
  | ok rows =>
      refine Program.Obeys.ask _ trivial fun answer => ?_
      cases answer with
      | error error => exact trivial
      | ok observedAtMs =>
          refine Program.Obeys.mono _ (fun _ _ _ => trivial)
            (Program.Obeys.each _ (· = some rows) ?_ rfl)
          rintro row member _ rfl
          exact supersedeRow_obeys member

theorem write_obeys (envelope : EventEnvelope) :
    (write envelope).Obeys (scanMonitor (some envelope) true)
      (fun _ _ => True) none := by
  refine Program.Obeys.bind _ (Program.Obeys.mono _ ?_
    (writeCommitted_obeys envelope))
  rintro _ (error | eventId) rfl
  · exact trivial
  · simp only
    split
    · exact trivial
    · split
      · exact trivial
      · exact Program.Obeys.bind _ (Program.Obeys.mono _ (fun _ _ _ => trivial)
          (supersedePredecessors_obeys _ _))

section Liveness

variable {monitor : Program.Monitor Op Op.Answer} {before : monitor.Memory}

/-- A check for life leaves no trace with a monitor that ignores it. -/
theorem isPidAlive_obeys (pid : Nat) (allows : monitor.allowed before (.kill pid))
    (ignores : ∀ answer, monitor.remember before (.kill pid) answer = before) :
    (isPidAlive pid).Obeys monitor (fun after _ => after = before) before := by
  unfold isPidAlive
  split
  · refine Program.Obeys.ask _ allows fun answer => ?_
    rw [ignores answer]
    cases answer <;> exact rfl
  · exact rfl

theorem probeReason_obeys (lastPid : Option Nat)
    (allows : ∀ pid, monitor.allowed before (.kill pid))
    (ignores : ∀ pid answer,
      monitor.remember before (.kill pid) answer = before) :
    (probeReason lastPid).Obeys monitor (fun after _ => after = before)
      before := by
  cases lastPid with
  | none => exact rfl
  | some pid =>
      refine Program.Obeys.bind _ (Program.Obeys.mono _ ?_
        (isPidAlive_obeys pid (allows pid) (ignores pid)))
      rintro _ (_ | _) rfl <;> exact rfl

end Liveness

theorem probeRow_obeys {observedAtMs : Int} {row : Db.ProjectionRow}
    {report : ProbeReport} (member : row ∈ rows) :
    (probeRow observedAtMs row report).Obeys (scanMonitor primary false)
      (fun after _ => after = some rows) (some rows) := by
  unfold probeRow
  split
  · exact rfl
  · rename_i stored parsed
    split
    · exact rfl
    · rename_i live
      refine Program.Obeys.bind _ (Program.Obeys.mono _ ?_
        (probeReason_obeys stored.lastPid (fun _ => trivial) fun _ _ => rfl))
      rintro _ (_ | reason) rfl
      · exact rfl
      · exact Program.Obeys.ask _ ⟨rows, rfl, row, member, rfl, rfl, stored,
          parse_json parsed, live, rfl, rfl, rfl⟩ fun _ => rfl

theorem probeRows_obeys {observedAtMs : Int} {scanned : List Db.ProjectionRow}
    {report : ProbeReport} (within : ∀ row ∈ scanned, row ∈ rows) :
    (probeRows observedAtMs scanned report).Obeys (scanMonitor primary false)
      (fun _ _ => True) (some rows) := by
  induction scanned generalizing report with
  | nil => exact trivial
  | cons row rest induction =>
      refine Program.Obeys.ask _ trivial fun cancelled => ?_
      cases cancelled with
      | true => exact trivial
      | false =>
          change Program.Obeys _ _ _ (probeRow observedAtMs row report >>=
            fun report => probeRows observedAtMs rest report)
          refine Program.Obeys.bind _ (Program.Obeys.mono _ ?_
            (probeRow_obeys (within row (by simp))))
          rintro _ report rfl
          exact induction fun other member => within other (by simp [member])

theorem probeOnce_obeys :
    probeOnce.Obeys (scanMonitor primary false) (fun _ _ => True) none := by
  refine Program.Obeys.ask _ (by exact rfl) fun answer => ?_
  cases answer with
  | error error => exact trivial
  | ok rows =>
      refine Program.Obeys.ask _ trivial fun answer => ?_
      cases answer with
      | error error => exact trivial
      | ok observedAtMs =>
          change Program.Obeys _ _ _
            (probeRows observedAtMs rows ProbeReport.default >>=
              fun report => pure (Except.ok report))
          refine Program.Obeys.bind _ (Program.Obeys.mono _ ?_
            (probeRows_obeys fun _ member => member))
          exact fun _ _ _ => trivial

end Obeys

/-! What a report counts. -/

/-- Counts the answers of one kind to a program's writes. -/
def tally (counts : Except Error (Option Int) → Bool) :
    Program.Monitor Op Op.Answer where
  Memory := Nat
  allowed _ _ := True
  remember memory op answer :=
    match op, answer with
    | .writeInner _ _, answer => if counts answer then memory + 1 else memory
    | _, _ => memory

section Tally

variable {counts : Except Error (Option Int) → Bool} {field : ProbeReport → Nat}

theorem probeRow_tally (counted : ∀ report answer, field (report.count answer) =
      if counts answer then field report + 1 else field report)
    (observedAtMs : Int) (row : Db.ProjectionRow) (report : ProbeReport) :
    (probeRow observedAtMs row report).Obeys (tally counts)
      (fun memory report => field report = memory) (field report) := by
  unfold probeRow
  split
  · exact rfl
  · rename_i stored parsed
    split
    · exact rfl
    · refine Program.Obeys.bind _ (Program.Obeys.mono _ ?_
        (probeReason_obeys stored.lastPid (fun _ => trivial) fun _ _ => rfl))
      rintro _ (_ | reason) rfl
      · exact rfl
      · exact Program.Obeys.ask _ trivial fun answer => counted report answer

theorem probeRows_tally (counted : ∀ report answer, field (report.count answer) =
      if counts answer then field report + 1 else field report)
    (observedAtMs : Int) (scanned : List Db.ProjectionRow)
    (report : ProbeReport) :
    (probeRows observedAtMs scanned report).Obeys (tally counts)
      (fun memory report => field report = memory) (field report) := by
  induction scanned generalizing report with
  | nil => exact rfl
  | cons row rest induction =>
      refine Program.Obeys.ask _ trivial fun cancelled => ?_
      cases cancelled with
      | true => exact rfl
      | false =>
          change Program.Obeys _ _ _ (probeRow observedAtMs row report >>=
            fun report => probeRows observedAtMs rest report)
          refine Program.Obeys.bind _ (Program.Obeys.mono _ ?_
            (probeRow_tally counted observedAtMs row report))
          rintro _ report rfl
          exact induction report

/-- A field of the report that grows with one kind of answer counts the answers
of that kind to the writes of the whole probe. -/
theorem probeOnce_tally (counted : ∀ report answer, field (report.count answer) =
      if counts answer then field report + 1 else field report)
    (fresh : field ProbeReport.default = 0) :
    probeOnce.Obeys (tally counts)
      (fun memory result => ∀ report, result = .ok report →
        field report = memory) (0 : Nat) := by
  refine Program.Obeys.ask _ trivial fun answer => ?_
  cases answer with
  | error error => exact nofun
  | ok rows =>
      refine Program.Obeys.ask _ trivial fun answer => ?_
      cases answer with
      | error error => exact nofun
      | ok observedAtMs =>
          change Program.Obeys _ _ _
            (probeRows observedAtMs rows ProbeReport.default >>=
              fun report => pure (Except.ok report))
          refine Program.Obeys.bind _ (Program.Obeys.mono _ ?_
            (fresh ▸ probeRows_tally counted observedAtMs rows .default))
          rintro memory report same _ ⟨rfl⟩
          exact same

end Tally


end Bowerbird.Projection
