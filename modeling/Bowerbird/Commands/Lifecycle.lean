import Bowerbird.Api.Router
import Bowerbird.Commands.Http
import Bowerbird.Commands.LaunchAgent
import Bowerbird.Foundation.Directory
import Bowerbird.Foundation.Watch

namespace Bowerbird.Commands.Lifecycle

open Foundation Program LaunchAgent

/-! Starting and stopping the daemon: what the commands ask of the system, and what
they do with its answers. -/

structure OsError where
  code : Int
  text : String
  deriving Repr, DecidableEq

namespace OsError

def eperm : Int := 1

def enoent : Int := 2

def esrch : Int := 3

end OsError

inductive Signal where
  | term
  | kill
  deriving Repr, DecidableEq

/-- What `launchctl` is run with. -/
inductive Request where
  | print (target : String)
  | bootstrap (domain plist : String)
  | load (plist : String)
  | bootout (target : String)
  | unload (plist : String)
  | kickstart (target : String)
  deriving Repr, DecidableEq

def Request.args : Request → List String
  | print target => ["print", target]
  | bootstrap domain plist => ["bootstrap", domain, plist]
  | load plist => ["load", "-w", plist]
  | bootout target => ["bootout", target]
  | unload plist => ["unload", "-w", plist]
  | kickstart target => ["kickstart", "-k", target]

structure LaunchctlOutput where
  success : Bool
  code : Option Int
  stdout : String
  stderr : String
  deriving Repr, DecidableEq

structure Metadata where
  isFile : Bool
  mode : Nat
  deriving Repr, DecidableEq

/-- What the commands print. -/
inductive Line where
  | alreadyUnderLaunchd (pid : Int)
  | migratingUnmatched (sock : String)
  | migrating
  | alreadyRunning
  | alreadyRunningPid (pid : Option Int)
  | startedViaLaunchd
  | spawned (pid : Nat)
  | ready (addr : String)
  | sendingSigterm (pid : Int)
  | paused
  | notRunning
  | stopped
  | stoppedEscalated
  | registeredOnly (plist : String)
  | registered (plist : String)
  | stoppingUnsupervised
  | removedRegistration (plist : String)
  | pidUnverified (sock label : String)
  | stateUnverified (sock label : String)
  | bootoutFailed (error : String)
  | escalating
  | stopFailed (error : String)
  | stillAccepting (sock : String)
  | noStopNote (label : String)
  deriving Repr, DecidableEq

def unverifiedText (sock what label : String) : String :=
  s!"warning: a daemon is already accepting on {sock} but launchd's {what} for the " ++
    "registered LaunchAgent could not be verified; leaving the running daemon in " ++
    "place — it may not be under launchd supervision (check `launchctl print " ++
    s!"gui/$(id -u)/{label}`)"

def Line.display : Line → String
  | alreadyUnderLaunchd pid => s!"daemon already running under launchd (pid {pid})"
  | migratingUnmatched sock =>
      s!"a daemon is accepting on {sock} but launchd is not running the registered " ++
        "job (or its pid does not match the singleton holder); migrating it to " ++
        "launchd supervision"
  | migrating =>
      "a daemon is running but not under launchd; migrating it to launchd supervision"
  | alreadyRunning => "daemon already running"
  | alreadyRunningPid (some pid) =>
      s!"daemon already running (pid {pid}); use 'bowerbird stop' to stop it"
  | alreadyRunningPid none =>
      "daemon already running; use 'bowerbird stop' to stop it"
  | startedViaLaunchd => "started bowerbird-daemon via launchd"
  | spawned pid => s!"started bowerbird-daemon (pid {pid})"
  | ready addr => s!"daemon ready at http://{addr}"
  | sendingSigterm pid => s!"sending SIGTERM to bowerbird-daemon (pid {pid})"
  | paused =>
      "daemon stopped (launchd supervision paused until next login; run `bowerbird " ++
      "start` to resume now)"
  | notRunning => "daemon not running (no pid file); nothing to stop"
  | stopped => "daemon stopped"
  | stoppedEscalated => "daemon stopped (after SIGKILL escalation)"
  | registeredOnly plist =>
      s!"registered bowerbird-daemon to start on login ({plist}); --no-start, not " ++
        "bootstrapped"
  | registered plist => s!"registered bowerbird-daemon to start on login ({plist})"
  | stoppingUnsupervised =>
      "stopping the running unsupervised daemon so launchd can take over"
  | removedRegistration plist =>
      s!"removed bowerbird-daemon login registration ({plist})"
  | pidUnverified sock label => unverifiedText sock "pid" label
  | stateUnverified sock label => unverifiedText sock "state" label
  | bootoutFailed error =>
      s!"warning: could not boot the LaunchAgent out ({error}); falling back to a " ++
        "PID-file stop — if launchd is supervising the daemon, a forced (SIGKILL) " ++
        "stop may be restarted by KeepAlive (run `bowerbird uninstall` to remove " ++
        "supervision)"
  | escalating => "daemon did not exit within 10s; escalating to SIGKILL"
  | stopFailed error => "warning: " ++ error
  | stillAccepting sock =>
      s!"warning: a daemon is still accepting on {sock} after uninstall; the " ++
        "LaunchAgent registration was removed but a manual / pre-5.9 daemon is still " ++
        "running and no bowerbird PID file could stop it — stop that process manually"
  | noStopNote label =>
      "note: --no-stop removed the plist without booting the LaunchAgent out; if it " ++
        "was already loaded this login session, launchd keeps supervising the daemon " ++
        s!"until you log out or run `launchctl bootout gui/$(id -u)/{label}`"

inductive Op where
  | pathExists (path : String)
  | metadata (path : String)
  | readFile (path : String)
  | writeFile (path text : String)
  | setMode (path : String) (mode : Nat)
  | rename (path target : String)
  | removeFile (path : String)
  | createDirAll (path : String)
  | canonicalize (path : String)
  | connect (sock : String)
  | openFile (path : String)
  | flock (path : String)
  | unlock (path : String)
  /-- No signal only asks whether the process is there. -/
  | kill (pid : Int) (signal : Option Signal)
  | now
  | sleep (ms : Nat)
  | launchctl (request : Request)
  | readServerInfo (path : String)
  | healthz (addr : String) (perAttempt : Nat)
  | spawn (bin : String)
  | println (line : Line)
  | eprintln (line : Line)
  deriving Repr, DecidableEq

def Op.Answer : Op → Type
  | pathExists _ => Bool
  | metadata _ => Option Metadata
  | readFile _ => Except OsError String
  | writeFile _ _ => Except OsError Unit
  | setMode _ _ => Except OsError Unit
  | rename _ _ => Except OsError Unit
  | removeFile _ => Except OsError Unit
  | createDirAll _ => Except OsError Unit
  | canonicalize _ => Except OsError String
  | connect _ => Bool
  | openFile _ => Except OsError Unit
  | flock _ => Bool
  | unlock _ => Unit
  | kill _ _ => Except OsError Unit
  | now => Nat
  | sleep _ => Unit
  | launchctl _ => Except OsError LaunchctlOutput
  | readServerInfo _ => Option String
  | healthz _ _ => Http.HealthzOutcome
  | spawn _ => Except OsError Nat
  | println _ => Unit
  | eprintln _ => Unit

/-- A command ends without a result with its error, the outermost context first, or
when the model has no more turns for its loops. -/
inductive Stop where
  | failed (chain : List String)
  | unfinished
  deriving Repr, DecidableEq

namespace Stop

def context (text : String) : Stop → Stop
  | failed chain => failed (text :: chain)
  | unfinished => unfinished

/-- `{:#}` -/
def display : Stop → String
  | failed chain => ": ".intercalate chain
  | unfinished => ""

end Stop

abbrev Action (Value : Type) : Type :=
  ExceptT Stop (Program Op Op.Answer) Value

def ask (op : Op) : Action op.Answer :=
  consult op

def clock : Action Nat :=
  ask .now

def say (line : Line) : Action Unit :=
  ask (.println line)

def fail {Value : Type} (chain : List String) : Action Value :=
  throw (.failed chain)

def ofExcept {Value : Type} : Except String Value → Action Value
  | .ok value => pure value
  | .error error => fail [error]

def within {Value : Type} (text : String) (action : Action Value) : Action Value :=
  mapFailure (Stop.context text) action

/-- A call whose error ends the command. -/
def orFail (text : String) : Except OsError Unit → Action Unit
  | .ok () => pure ()
  | .error error => fail [text, error.text]

/-! Where things are.  `exeDir` is where the command's own executable lies, and
`path` is `PATH`, taken apart. -/

structure CliEnv where
  dataDir : Option String
  home : Option String
  ingestSock : Option String
  daemonBin : Option String
  agentLabel : Option String
  agentsDir : Option String
  exeDir : Option String
  path : List String
  uid : Nat
  pid : Nat
  deriving Repr, DecidableEq

def isAbsolute (path : String) : Bool :=
  path.toList.head? == some '/'

/-- A reversed path without the separators and dots it ends in. -/
def bare : List Char → List Char
  | '/' :: rest => if rest.isEmpty then ['/'] else bare rest
  | '.' :: '/' :: rest => bare ('/' :: rest)
  | chars => chars
termination_by chars => chars.length

/-- `Path::parent`, of an absolute path. -/
def parent (path : String) : Option String :=
  match bare path.toList.reverse with
  | ['/'] => none
  | chars =>
      some (String.ofList (bare (chars.dropWhile (· ≠ '/'))).reverse)

/-- `Path::file_name`, of a path that has one. -/
def fileName (path : String) : String :=
  String.ofList ((bare path.toList.reverse).takeWhile (· ≠ '/')).reverse

def homeDir (env : CliEnv) : Except String String :=
  match nonEmpty env.home with
  | some home => .ok home
  | none => .error "HOME is unset or empty"

def resolveBowerbirdDir (env : CliEnv) : Except String String :=
  match nonEmpty env.dataDir with
  | some dir => .ok dir
  | none => (homeDir env).map fun home => join home ".bowerbird"

def resolveDaemonBin (env : CliEnv) : String :=
  (nonEmpty env.daemonBin).getD "bowerbird-daemon"

def effectiveIngestSock (env : CliEnv) (dataDir : String) : String :=
  (nonEmpty env.ingestSock).getD (join dataDir "ingest.sock")

def pidPath (dir : String) : String :=
  join dir "bowerbird.pid"

def serverJsonPath (dir : String) : String :=
  join dir "server.json"

def daemonIsUp (sock : String) : Action Bool :=
  ask (.connect sock)

/-! Who holds the singleton. -/

/-- `str::parse::<i32>` -/
def parseI32 (chars : List Char) : Option Int :=
  (Api.Router.parseI64 chars).filter fun value =>
    -2147483648 ≤ value && value ≤ 2147483647

/-- The positive number that a pid file holds. -/
def parsePid (text : String) : Option Int :=
  (parseI32 (Api.trim text.toList)).filter (0 < ·)

def readPid (path : String) : Action (Option Int) := do
  match ← ask (.readFile path) with
  | .ok text => return parsePid text
  | .error error =>
      if error.code = OsError.enoent then return none
      else fail ["read " ++ path, error.text]

/-- What may not be signalled is still there. -/
def answersAlive : Except OsError Unit → Bool
  | .ok () => true
  | .error error => error.code == OsError.eperm

def pidAlive (pid : Int) : Action Bool := do
  let answer ← ask (.kill pid none)
  return answersAlive answer

inductive SingletonState where
  | free
  | held (pid : Int)
  | heldUnknownPid
  deriving Repr, DecidableEq

def holderOf (path : String) : Action SingletonState := do
  match ← attempted (readPid path) with
  | .ok (some pid) =>
      if ← pidAlive pid then return .held pid else return .heldUnknownPid
  | _ => return .heldUnknownPid

def singletonState (dir : String) : Action SingletonState := do
  match ← ask (.openFile (pidPath dir)) with
  | .error error =>
      if error.code = OsError.enoent then return .free else return .heldUnknownPid
  | .ok () =>
      match ← ask (.flock (pidPath dir)) with
      | true =>
          ask (.unlock (pidPath dir))
          return .free
      | false => holderOf (pidPath dir)

/-! Stopping by the pid file. -/

inductive EsrchReprobe where
  | stopped
  | retry (pid : Int)
  | fail
  deriving Repr, DecidableEq

def esrchReprobe (state : SingletonState) (retried : Bool) : EsrchReprobe :=
  match state with
  | .free => .stopped
  | .held pid => if retried then .fail else .retry pid
  | .heldUnknownPid => .fail

inductive StopOutcome where
  | notRunning
  | stopped
  | escalated
  deriving Repr, DecidableEq

/-- One turn of the loop; `gone` is what is done when there is no such process. -/
def sendSigterm (pid : Int) (gone : Action (Option Int)) : Action (Option Int) := do
  say (.sendingSigterm pid)
  match ← ask (.kill pid (some .term)) with
  | .ok () => return some pid
  | .error error =>
      if error.code = OsError.esrch then gone
      else fail ["send SIGTERM", error.text]

def couldNotBeStopped (dir : String) : String :=
  s!"the bowerbird daemon holding the singleton for {dir} could not be stopped: its " ++
    "pid changed or became unidentifiable while signaling it — re-run `bowerbird stop`"

/-- The process that has been sent SIGTERM; none when the holder went away. -/
def signalHolder (dir : String) (pid : Int) : Action (Option Int) :=
  sendSigterm pid do
    match esrchReprobe (← singletonState dir) false with
    | .stopped => return none
    | .fail => fail [couldNotBeStopped dir]
    | .retry next =>
        sendSigterm next do
          match esrchReprobe (← singletonState dir) true with
          | .stopped => return none
          | .retry _ | .fail => fail [couldNotBeStopped dir]

def reap : Nat → Int → Nat → Action Unit
  | 0, _, _ => throw .unfinished
  | turns + 1, pid, deadline => do
      if ← pidAlive pid then
        let time ← clock
        if time < deadline then
          ask (.sleep 20)
          reap turns pid deadline
        else return ()
      else return ()

def escalate (turns : Nat) (pid : Int) : Action Unit := do
  ask (.eprintln .escalating)
  let _ ← ask (.kill pid (some .kill))
  let time ← clock
  reap turns pid (time + 1000)

/-- Wait for the process to go away; whether it took SIGKILL. -/
def drain : Nat → Int → Nat → Action Bool
  | 0, _, _ => throw .unfinished
  | turns + 1, pid, deadline => do
      if ← pidAlive pid then
        let time ← clock
        if deadline ≤ time then
          escalate turns pid
          return true
        else
          ask (.sleep 50)
          drain turns pid deadline
      else return false

def awaitExit (turns : Nat) (pid : Int) : Action StopOutcome := do
  let time ← clock
  let escalated ← drain turns pid (time + 10000)
  if ← pidAlive pid then fail [s!"daemon pid {pid} still alive after SIGKILL"]
  else return if escalated then .escalated else .stopped

def stopDaemonViaPidFile (turns : Nat) (dir : String) : Action StopOutcome := do
  match ← singletonState dir with
  | .free => return .notRunning
  | .heldUnknownPid =>
      fail [s!"a bowerbird daemon holds the singleton for {dir} but its " ++
        "`bowerbird.pid` does not name a live process (empty/corrupt/dead pid); " ++
        "refusing to signal a guessed pid — stop that process manually"]
  | .held pid =>
      match ← signalHolder dir pid with
      | none => return .notRunning
      | some pid => awaitExit turns pid

/-! Starting one that nobody supervises, and waiting for one. -/

inductive StartOutcome where
  | alreadyRunning
  | spawned (pid : Nat)
  deriving Repr, DecidableEq

def startDaemonDetached (env : CliEnv) (dir : String) : Action StartOutcome := do
  if ← daemonIsUp (join dir "ingest.sock") then return .alreadyRunning
  else
    match ← ask (.spawn (resolveDaemonBin env)) with
    | .ok pid => return .spawned pid
    | .error error =>
        fail [s!"spawn daemon binary `{resolveDaemonBin env}` (set " ++
          "BOWERBIRD_DAEMON_BIN or ensure bowerbird-daemon is on PATH)", error.text]

def readinessBudget : Nat := 2000

def healthzPerAttempt : Nat := 250

def serverJsonPollInterval : Nat := 50

def waitForServerJson : Nat → String → Nat → Action (Option String)
  | 0, _, _ => throw .unfinished
  | turns + 1, dir, deadline => do
      let time ← clock
      if time < deadline then
        match ← ask (.readServerInfo (serverJsonPath dir)) with
        | some bindAddr => return some bindAddr
        | none =>
            ask (.sleep serverJsonPollInterval)
            waitForServerJson turns dir deadline
      else return none

def pollHealthz : Nat → String → String → Nat → Action Unit
  | 0, _, _, _ => throw .unfinished
  | turns + 1, who, addr, deadline => do
      let time ← clock
      if time < deadline then
        match ← ask (.healthz addr healthzPerAttempt) with
        | .ok => say (.ready addr)
        | .unhealthy | .unreachable =>
            ask (.sleep 50)
            pollHealthz turns who addr deadline
      else
        fail [s!"{who} but failed to become healthy within {readinessBudget}ms; see " ++
          "~/.bowerbird/ for crash logs"]

section Start

/-! How an address is read and written out again, and how a text is quoted, is a
parameter. -/

variable (parseAddr : String → Except String String) (quoted : String → String)
variable (env : CliEnv) (turns : Nat)

def waitForReady (dir who : String) : Action Unit := do
  let time ← clock
  match ← waitForServerJson turns dir (time + readinessBudget) with
  | none =>
      fail [s!"{who} but server.json did not appear within {readinessBudget}ms; see " ++
        "~/.bowerbird/ for crash logs"]
  | some bindAddr =>
      match parseAddr bindAddr with
      | .error error =>
          fail ["parse server.json bind_addr " ++ quoted bindAddr, error]
      | .ok addr => pollHealthz turns who addr (time + readinessBudget)

def startDetached (dir : String) : Action Unit := do
  match ← startDaemonDetached env dir with
  | .alreadyRunning =>
      match ← attempted (readPid (pidPath dir)) with
      | .ok pid => say (.alreadyRunningPid pid)
      | .error _ => say (.alreadyRunningPid none)
  | .spawned pid =>
      say (.spawned pid)
      waitForReady parseAddr quoted turns dir s!"daemon spawned (pid {pid})"

end Start

def reportStop (announceNotRunning : Bool) : StopOutcome → Action Unit
  | .notRunning =>
      if announceNotRunning then say .notRunning else return ()
  | .stopped => say .stopped
  | .escalated => say .stoppedEscalated

def stopViaPidFile (env : CliEnv) (turns : Nat) (announceNotRunning : Bool) :
    Action Unit := do
  let dir ← ofExcept (resolveBowerbirdDir env)
  let outcome ← stopDaemonViaPidFile turns dir
  reportStop announceNotRunning outcome

end Bowerbird.Commands.Lifecycle
