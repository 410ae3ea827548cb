import Bowerbird.Foundation.Machine

namespace Bowerbird.Daemon.Singleton

open Foundation

/-! The daemon's singleton: an advisory lock on the pid file, held until its
process closes the file, and the pid inside, written after the lock is taken and
left behind.  Command line probes take the same lock for a moment.  Each syscall
is a step: a process that ends first lets go of the lock and then of its pid,
which may come back to an unrelated process. -/

/-- A pid in the file, with the process that wrote it. -/
structure Stamp where
  pid : Nat
  writer : Nat
  deriving Repr, DecidableEq

/-- `blank` is a file without a pid that could be read. -/
inductive PidFile where
  | missing
  | blank
  | stamped (stamp : Stamp)
  deriving Repr, DecidableEq

def PidFile.stamp? : PidFile → Option Stamp
  | stamped stamp => some stamp
  | _ => none

/-- Inside `acquire`, then the daemon's life, and `leaving` once its main has
returned or it is being killed.  `met` says whether it was a daemon that held the
lock when the first attempt failed. -/
inductive DaemonPhase where
  | starting
  | opened
  | conflicted (met : Bool)
  | judging (met : Bool) (holder : Nat)
  | retrying (holder : Nat)
  | locked
  | truncated
  | serving
  | leaving
  deriving Repr, DecidableEq

/-- Why the command line looks: only to know, to stop the daemon, or again after
a signal that found no process. -/
inductive Purpose where
  | look
  | stop
  | again (retried : Bool)
  deriving Repr, DecidableEq

inductive CliPhase where
  | starting
  | opened
  | locked
  | conflicted
  | testing (stamp : Stamp)
  | signalling (stamp : Stamp)
  | waiting (stamp : Stamp)
  | killing (stamp : Stamp)
  deriving Repr, DecidableEq

def CliPhase.stamp? : CliPhase → Option Stamp
  | testing stamp | signalling stamp | waiting stamp | killing stamp =>
      some stamp
  | _ => none

inductive Role where
  | daemon (phase : DaemonPhase)
  | cli (purpose : Purpose) (phase : CliPhase)
  | other
  deriving Repr, DecidableEq

def Role.isDaemon : Role → Bool
  | daemon _ => true
  | _ => false

def Role.holdsLock : Role → Bool
  | daemon .locked | daemon .truncated | daemon .serving => true
  | cli _ .locked => true
  | _ => false

def Role.stamp? : Role → Option Stamp
  | cli _ phase => phase.stamp?
  | _ => none

/-- What a process is once its files are closed. -/
def Role.left : Role → Role
  | daemon .locked | daemon .truncated | daemon .serving | daemon .leaving =>
      .daemon .leaving
  | _ => .other

def Role.isLeft : Role → Bool
  | daemon .leaving | other => true
  | _ => false

/-- A pid is a name that is used again; an `id` never is. -/
structure Process where
  id : Nat
  pid : Nat
  role : Role
  deriving Repr, DecidableEq

structure State where
  processes : List Process
  file : PidFile
  lock : Option Nat
  next : Nat
  deriving Repr, DecidableEq

/-- Nothing runs, and earlier daemons have left this pid, if any. -/
def State.boot (left : Option Nat) : State where
  processes := []
  file :=
    match left with
    | some pid => .stamped { pid, writer := 0 }
    | none => .missing
  lock := none
  next := 1

inductive SingletonState where
  | free
  | held (pid : Nat)
  | heldUnknownPid
  deriving Repr, DecidableEq

inductive Seen where
  | probed (result : SingletonState)
  | alreadyHeld (holder : Nat) (met : Bool)
  | signalled (target : Nat)
  deriving Repr, DecidableEq

namespace State

def alive (state : State) (pid : Nat) : Bool :=
  state.processes.any (·.pid = pid)

def owner? (state : State) (pid : Nat) : Option Process :=
  state.processes.find? (·.pid = pid)

def heldByDaemon (state : State) : Bool :=
  state.processes.any fun process =>
    process.role.isDaemon && state.lock = some process.id

end State

/-- One syscall of a process: its next role, the file and the lock after it, and
what it reports. -/
structure Turn where
  role : Role
  file : PidFile
  lock : Option Nat
  seen : List Seen
  deriving Repr, DecidableEq

section Turns

variable (state : State) (process : Process)

def become (role : Role) (seen : List Seen) : Turn :=
  { role, file := state.file, lock := state.lock, seen }

/-- `flock(LOCK_EX | LOCK_NB)`. -/
def flock (taken refused : Turn) : Turn :=
  if state.lock.isNone then { taken with lock := some process.id } else refused

/-- A daemon that serves does nothing more here but leave. -/
def daemonTurn : DaemonPhase → Option Turn
  | .starting =>
      some { become state (.daemon .opened) [] with
        file := if state.file = .missing then .blank else state.file }
  | .opened =>
      some (flock state process (become state (.daemon .locked) [])
        (become state (.daemon (.conflicted state.heldByDaemon)) []))
  | .conflicted met =>
      let holder := (state.file.stamp?.map Stamp.pid).getD 0
      some (become state (.daemon (.judging met holder)) [])
  | .judging met holder =>
      if 0 < holder ∧ !state.alive holder then
        some (become state (.daemon (.retrying holder)) [])
      else some (become state .other [.alreadyHeld holder met])
  | .retrying holder =>
      some (flock state process (become state (.daemon .locked) [])
        (become state .other [.alreadyHeld holder state.heldByDaemon]))
  | .locked =>
      some { become state (.daemon .truncated) [] with file := .blank }
  | .truncated =>
      some { become state (.daemon .serving) [] with
        file := .stamped { pid := process.pid, writer := process.id } }
  | .serving | .leaving => none

/-- What the command line does with a pid that holds the singleton. -/
def afterHeld (purpose : Purpose) (stamp : Stamp) : Role :=
  match purpose with
  | .look => .other
  | .stop => .cli (.again false) (.signalling stamp)
  | .again false => .cli (.again true) (.signalling stamp)
  | .again true => .other

def probed (role : Role) (result : SingletonState) : Turn :=
  become state role [.probed result]

/-- A signal reaches the process that has the pid now. -/
def signal (stamp : Stamp) (delivered missed : Role) : Turn :=
  match state.owner? stamp.pid with
  | some target => become state delivered [.signalled target.id]
  | none => become state missed []

def cliTurn (purpose : Purpose) (expired : Bool) : CliPhase → Option Turn
  | .starting =>
      some (if state.file = .missing then probed state .other .free
        else become state (.cli purpose .opened) [])
  | .opened =>
      some (flock state process (become state (.cli purpose .locked) [])
        (become state (.cli purpose .conflicted) []))
  | .locked => some { probed state .other .free with lock := none }
  | .conflicted =>
      match state.file.stamp? with
      | some stamp =>
          if 0 < stamp.pid then
            some (become state (.cli purpose (.testing stamp)) [])
          else some (probed state .other .heldUnknownPid)
      | none => some (probed state .other .heldUnknownPid)
  | .testing stamp =>
      some (if state.alive stamp.pid then
          probed state (afterHeld purpose stamp) (.held stamp.pid)
        else probed state .other .heldUnknownPid)
  | .signalling stamp =>
      some (signal state stamp (.cli purpose (.waiting stamp))
        (.cli purpose .starting))
  | .waiting stamp =>
      some (if state.alive stamp.pid then
          become state
            (.cli purpose (if expired then .killing stamp else .waiting stamp))
            []
        else become state .other [])
  | .killing stamp => some (signal state stamp .other .other)

/-- `expired` is what the clock says of the wait for the daemon's exit. -/
def turn (expired : Bool) : Option Turn :=
  match process.role with
  | .daemon phase => daemonTurn state process phase
  | .cli purpose phase => cliTurn state process purpose expired phase
  | .other => none

/-- The files of a process are closed, at any moment; its pid is still its own. -/
def leaveTurn : Turn :=
  { become state process.role.left [] with
    lock := if state.lock = some process.id then none else state.lock }

end Turns

inductive Label where
  | spawn (pid : Nat) (role : Role)
  | act (id : Nat) (expired : Bool)
  | leave (id : Nat)
  | exit (id : Nat)
  deriving Repr, DecidableEq

/-- How a process begins. -/
def Role.isInitial (role : Role) : Bool :=
  role = .daemon .starting || role = .cli .look .starting ||
    role = .cli .stop .starting || role = .other

namespace State

def spawn (state : State) (pid : Nat) (role : Role) : State :=
  { state with
    processes := state.processes ++ [{ id := state.next, pid, role }]
    next := state.next + 1 }

def take (state : State) (id : Nat) (turn : Turn) : State :=
  { state with
    processes := state.processes.map fun process =>
      if process.id = id then { process with role := turn.role } else process
    file := turn.file
    lock := turn.lock }

def exit (state : State) (id : Nat) : State :=
  { state with processes := state.processes.filter (·.id ≠ id) }

end State

def machine : Machine State Label Seen where
  step state label :=
    match label with
    | .spawn pid role =>
        if 0 < pid ∧ !state.alive pid ∧ role.isInitial then
          some (state.spawn pid role, [])
        else none
    | .act id expired =>
        match state.processes.find? (·.id = id) with
        | some process =>
            (turn state process expired).map fun turn =>
              (state.take id turn, turn.seen)
        | none => none
    | .leave id =>
        (state.processes.find? (·.id = id)).map fun process =>
          (state.take id (leaveTurn state process), [])
    | .exit id =>
        match state.processes.find? (·.id = id) with
        | some process =>
            if process.role.isLeft then some (state.exit id, []) else none
        | none => none

end Bowerbird.Daemon.Singleton
