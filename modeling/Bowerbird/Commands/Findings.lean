import Bowerbird.Commands.Supervision

namespace Bowerbird.Commands.Lifecycle

open Foundation Program LaunchAgent

/-! What a command has found out by the answers that it has had. -/

/-- Of the singleton: what the probe under way has seen, who was last found to hold
it, the pid file that was last found free, as long as nobody has been stopped since,
and the one that was last found taken. -/
structure Probe where
  opened : Option String := none
  refused : Option String := none
  named : Option Int := none
  held : Option (String × Int) := none
  free : Option String := none
  taken : Option String := none
  alive : Option (Int × Bool) := none

/-- Of the job: whether it is registered, with what environment and program, and what
has become of its property list. -/
structure Job where
  there : Option Bool := none
  registered : Option (List (String × String)) := none
  program : Option String := none
  draft : Option (String × String) := none
  written : Option String := none
  removed : Option String := none
  canonical : Option (String × String) := none
  executable : Option String := none

/-- Of the job at launchd: whether launchd was asked for it, what could be verified
of it by that, and whether it was ordered out. -/
structure Launchd where
  asked : Bool := false
  loaded : Option Bool := none
  running : Option (Option Int) := none
  ordered : Bool := false

/-- Of the process that was sent SIGTERM: the pid file that it was found to hold,
whether SIGKILL was sent after it, and the time since. -/
structure Sent where
  termed : Option Int := none
  holding : Option String := none
  killed : Option Int := none
  since : Option Nat := none
  clock : Option Nat := none

/-- `socket` is the last answer of a socket, as long as nobody has been stopped
since; `file` is the pid that a file was last found to hold outside a probe, and
`server` the address that a server file holds. -/
structure Known where
  probe : Probe := {}
  job : Job := {}
  launchd : Launchd := {}
  sent : Sent := {}
  socket : Option (String × Bool) := none
  file : Option (String × Option Int) := none
  server : Option (String × String) := none
  healthy : Option String := none
  spawned : Option Nat := none
  warned : Bool := false
  noted : Bool := false

def Probe.begin (probe : Probe) (path : String) : Except OsError Unit → Probe
  | .ok () =>
      { probe with
        opened := some path
        refused := none
        named := none
        held := none
        free := none
        taken := none }
  | .error error =>
      { probe with
        opened := none
        refused := none
        named := none
        held := none
        free := if error.code = OsError.enoent then some path else none
        taken := if error.code = OsError.enoent then none else some path }

def Probe.lock (probe : Probe) (path : String) (acquired : Bool) : Probe :=
  if acquired then { probe with opened := none, free := some path, taken := none }
  else if probe.opened = some path then
    { probe with refused := some path, taken := some path }
  else probe

def Probe.read (probe : Probe) : Except OsError String → Probe
  | .ok text => { probe with opened := none, named := parsePid text }
  | .error _ => { probe with opened := none, named := none }

def Probe.ask (probe : Probe) (pid : Int) (alive : Bool) : Probe :=
  { probe with
    alive := some (pid, alive)
    held := if probe.named = some pid ∧ alive then probe.refused.map (·, pid) else none }

/-- The pid file that the process was found to hold. -/
def Probe.holding (probe : Probe) (pid : Int) : Option String :=
  match probe.held with
  | some (path, holder) => if holder = pid then some path else none
  | none => none

def Job.read (job : Job) (read : Except OsError String) : Job :=
  { job with
    registered := some (job.registered.getD (environmentOf read))
    program := programOf read }

def Job.publish (job : Job) (plist xml : String) : Job :=
  { job with
    registered := some (parsePlistEnvironment xml)
    program := parsePlistProgram xml
    written := some plist }

def Job.examine (job : Job) (path : String) (metadata : Option Metadata) : Job :=
  if isExecutable metadata then { job with executable := some path }
  else if job.executable = some path then { job with executable := none }
  else job

/-- An answer that says nothing of the job. -/
def Launchd.unverified (launchd : Launchd) : Launchd :=
  { launchd with asked := true, loaded := none, running := none }

/-- What `print` says. -/
def Launchd.print (launchd : Launchd) : Except OsError LaunchctlOutput → Launchd
  | .error _ => launchd.unverified
  | .ok output =>
      if output.success then
        { launchd with
          asked := true
          loaded := some true
          running := some (parseLaunchctlPrintPid output.stdout) }
      else if output.absent then
        { launchd with asked := true, loaded := some false, running := some none }
      else launchd.unverified

/-- A request to load or to unload, which is believed where `means` says that its
answer means it. -/
def Launchd.request (launchd : Launchd) (means : LaunchctlOutput → Bool)
    (loaded : Bool) : Except OsError LaunchctlOutput → Launchd
  | .error _ => launchd
  | .ok output =>
      if output.success || means output then { launchd with loaded := some loaded }
      else launchd

def Request.startsJob : Request → Bool
  | bootstrap _ _ | load _ | kickstart _ => true
  | print _ | bootout _ | unload _ => false

/-- An answer of launchd about the job. -/
def Launchd.told (launchd : Launchd) (request : Request)
    (answer : Except OsError LaunchctlOutput) : Launchd :=
  match request with
  | .print _ => launchd.print answer
  | .bootstrap _ _ | .load _ => launchd.request alreadyLoaded true answer
  | .kickstart _ => launchd.request (fun _ => false) true answer
  | .bootout _ | .unload _ =>
      { launchd.request alreadyUnloaded false answer with ordered := true }

def Known.stopped (known : Known) : Known :=
  { known with probe := { known.probe with free := none }, socket := none }

/-- What is still known after a request, whatever its answer is. -/
def Known.asked (known : Known) : Request → Known
  | .bootout _ | .unload _ => known.stopped
  | .print _ | .bootstrap _ _ | .load _ | .kickstart _ => known

/-- What is known once launchd has answered a request about the job. -/
def Known.answered (known : Known) (request : Request)
    (answer : Except OsError LaunchctlOutput) : Known :=
  { known.asked request with launchd := known.launchd.told request answer }

def Known.signal (known : Known) (pid : Int) :
    Signal → Except OsError Unit → Known
  | .term, .ok () =>
      { known.stopped with
        sent :=
          { known.sent with
            termed := some pid
            holding := known.probe.holding pid
            killed := none
            since := none } }
  | .term, .error _ => known
  | .kill, .ok () =>
      { known.stopped with sent := { known.sent with killed := some pid } }
  | .kill, .error _ => { known with sent := { known.sent with killed := some pid } }

section Remember

variable (env : CliEnv)

def plistOf : String :=
  ((plistPath env).toOption).getD ""

/-- The request is about the job and its property list. -/
def Request.Ours : Request → Prop
  | print target | bootout target | kickstart target => target = Lifecycle.target env
  | bootstrap domain plist => domain = Lifecycle.domain env ∧ plist = plistOf env
  | load plist | unload plist => plist = plistOf env

instance Request.decidableOurs : (request : Request) → Decidable (request.Ours env)
  | .print asked | .bootout asked | .kickstart asked =>
      inferInstanceAs (Decidable (asked = Lifecycle.target env))
  | .bootstrap asked plist =>
      inferInstanceAs (Decidable (asked = Lifecycle.domain env ∧ plist = plistOf env))
  | .load plist | .unload plist => inferInstanceAs (Decidable (plist = plistOf env))

/-- An answer counts for the job only where the job was asked about. -/
def Known.launchctl (known : Known) (request : Request)
    (answer : Except OsError LaunchctlOutput) : Known :=
  if request.Ours env then known.answered request answer else known.asked request

def remember (known : Known) : (op : Op) → op.Answer → Known
  | .pathExists path, there =>
      if path = plistOf env then
        { known with job := { known.job with there := some there } }
      else known
  | .openFile path, opened => { known with probe := known.probe.begin path opened }
  | .flock path, acquired => { known with probe := known.probe.lock path acquired }
  | .readFile path, read =>
      if known.probe.opened = some path then
        { known with probe := known.probe.read read }
      else if path = plistOf env then { known with job := known.job.read read }
      else { known with file := some (path, read.toOption.bind parsePid) }
  | .kill pid none, answer =>
      { known with probe := known.probe.ask pid (answersAlive answer) }
  | .kill pid (some signal), answer => known.signal pid signal answer
  | .now, time =>
      { known with
        sent :=
          { known.sent with
            clock := some time
            since := known.sent.since.or (some time) } }
  | .connect sock, up => { known with socket := some (sock, up) }
  | .launchctl request, answer => known.launchctl env request answer
  | .metadata path, metadata => { known with job := known.job.examine path metadata }
  | .canonicalize path, .ok canonical =>
      { known with job := { known.job with canonical := some (path, canonical) } }
  | .writeFile path text, .ok () =>
      { known with job := { known.job with draft := some (path, text) } }
  | .rename path target, .ok () =>
      match known.job.draft with
      | some (draft, text) =>
          if draft = path ∧ target = plistOf env then
            { known with job := known.job.publish target text }
          else known
      | none => known
  | .removeFile path, .ok () =>
      { known with job := { known.job with removed := some path } }
  | .removeFile path, .error error =>
      if error.code = OsError.enoent then
        { known with job := { known.job with removed := some path } }
      else known
  | .readServerInfo path, some bindAddr =>
      { known with server := some (path, bindAddr) }
  | .healthz addr _, .ok => { known with healthy := some addr }
  | .spawn _, .ok pid => { known with spawned := some pid }
  | .eprintln (.bootoutFailed _), () => { known with warned := true }
  | .eprintln (.noStopNote _), () => { known with noted := true }
  | _, _ => known

/-- What has been found out in a run. -/
def found (run : List (Exchange Op Op.Answer)) : Known :=
  run.foldl (fun known exchange => remember env known exchange.1 exchange.2) {}

/-! What a command may do, by what it knows. -/

/-- The directory of the daemon that a command is about, and the socket that the
command looks for it at. -/
inductive DaemonAt (job : Job) : Command → String → String → Prop
  | registered {registered : List (String × String)} {dir : String}
      (there : job.there = some true) (read : job.registered = some registered)
      (located : registeredDir env registered = .ok dir) :
      DaemonAt job .start dir (registeredSock registered dir)
  | unregistered {dir : String} (absent : job.there = some false)
      (located : resolveBowerbirdDir env = .ok dir) :
      DaemonAt job .start dir (join dir "ingest.sock")
  | stopping {dir : String} (located : resolveBowerbirdDir env = .ok dir) :
      DaemonAt job .stop dir (effectiveIngestSock env dir)
  | installing {noStart : Bool} {dir dirAbs : String}
      (located : resolveBowerbirdDir env = .ok dir)
      (canonical : job.canonical = some (dir, dirAbs)) :
      DaemonAt job (.install noStart) dir (effectiveIngestSock env dirAbs)
  | uninstalling {noStop : Bool} {registered : List (String × String)} {dir : String}
      (read : job.registered = some registered)
      (located : uninstallDir env registered = .ok dir) :
      DaemonAt job (.uninstall noStop) dir (uninstallSock env registered dir)

/-- Nothing is known to stand in the way of the job: nobody accepts on its socket,
nobody holds the singleton of its directory, the socket can be bound, and what it
runs can be run. -/
structure Unopposed (known : Known) (registered : List (String × String))
    (dir : String) : Prop where
  read : known.job.registered = some registered
  located : registeredDir env registered = .ok dir
  down : known.socket = some (registeredSock registered dir, false)
  fits : (registeredSock registered dir).utf8ByteSize + 1 ≤ sunPathMax
  free : ∃ probed, known.probe.free = some (pidPath probed) ∧
    (probed = dir ∨ known.job.canonical = some (probed, dir))
  launchable : ∀ program, known.job.program = some program →
    known.job.executable = some program

/-- The process has had SIGTERM for ten seconds, and is still there. -/
structure Overdue (known : Known) (pid : Int) : Prop where
  termed : known.sent.termed = some pid
  alive : known.probe.alive = some (pid, true)
  waited : ∃ since time, known.sent.since = some since ∧
    known.sent.clock = some time ∧ since + 10000 ≤ time

/-- The process that held the pid file has had SIGTERM, and is not there any more. -/
structure Gone (known : Known) (path : String) (pid : Int) : Prop where
  termed : known.sent.termed = some pid
  holding : known.sent.holding = some path
  alive : known.probe.alive = some (pid, false)

/-- What a stop has come to. -/
def Ended (known : Known) (path : String) : StopOutcome → Prop
  | .notRunning => known.probe.free = some path
  | .stopped => ∃ pid, Gone known path pid ∧ known.sent.killed = none
  | .escalated => ∃ pid, Gone known path pid ∧ known.sent.killed = some pid

section Command

variable (command : Command) (known : Known)

def LivesIn (dir : String) : Prop :=
  ∃ sock, DaemonAt env known.job command dir sock

/-- Somebody accepts on the socket of the daemon. -/
def AcceptingAt (sock : String) : Prop :=
  (∃ dir, DaemonAt env known.job command dir sock) ∧
    known.socket = some (sock, true)

def Accepting : Prop :=
  ∃ sock, AcceptingAt env command known sock

/-- The process was found to hold the lock of the daemon's pid file, which names
it. -/
def Aimed (pid : Int) : Prop :=
  0 < pid ∧ ∃ dir, LivesIn env command known dir ∧
    known.probe.held = some (pidPath dir, pid)

/-- launchd does not bring back what is stopped, or it has been warned of that;
`start`, which hands the job to launchd in the end, leaves a daemon that accepts
alone unless launchd's state is known. -/
def MayStop : Prop :=
  match command with
  | .start => known.launchd.loaded.isSome = true ∨
      ∃ dir sock, DaemonAt env known.job .start dir sock ∧
        known.socket = some (sock, false)
  | .stop | .install _ | .uninstall _ =>
      known.launchd.loaded = some false ∨ known.warned = true

variable (parseAddr : String → Except String String) in
/-- The daemon has answered at the address that its server file holds. -/
def Answering (addr : String) : Prop :=
  known.healthy = some addr ∧ ∃ dir bindAddr, LivesIn env command known dir ∧
    known.server = some (serverJsonPath dir, bindAddr) ∧ parseAddr bindAddr = .ok addr

variable (parseAddr : String → Except String String) in
/-- What is printed is what was found. -/
def Grounded : Line → Prop
  | .alreadyUnderLaunchd pid => known.launchd.running = some (some pid) ∧
      ∃ dir sock, DaemonAt env known.job command dir sock ∧
        known.socket = some (sock, true) ∧ known.probe.held = some (pidPath dir, pid)
  | .migratingUnmatched sock => ∃ dir running,
      DaemonAt env known.job command dir sock ∧ known.socket = some (sock, true) ∧
        known.launchd.running = some running ∧
        ∀ pid, running = some pid → known.probe.held ≠ some (pidPath dir, pid)
  | .migrating =>
      known.launchd.loaded = some false ∧ Accepting env command known
  | .alreadyRunning => Accepting env command known
  | .alreadyRunningPid pid => ∃ dir sock, DaemonAt env known.job command dir sock ∧
      known.socket = some (sock, true) ∧ known.file = some (pidPath dir, pid)
  | .startedViaLaunchd => known.launchd.loaded = some true
  | .spawned pid => known.spawned = some pid
  | .ready addr => Answering env command known parseAddr addr
  | .sendingSigterm pid => Aimed env command known pid
  | .paused =>
      known.launchd.loaded = some false ∧ known.launchd.ordered = true
  | .notRunning => ∃ dir, LivesIn env command known dir ∧
      Ended known (pidPath dir) .notRunning
  | .stopped => ∃ dir, LivesIn env command known dir ∧
      Ended known (pidPath dir) .stopped
  | .stoppedEscalated => ∃ dir, LivesIn env command known dir ∧
      Ended known (pidPath dir) .escalated
  | .registeredOnly plist | .registered plist =>
      plist = plistOf env ∧ known.job.written = some plist
  | .stoppingUnsupervised => known.launchd.loaded = some false ∧
      ∃ dir sock, DaemonAt env known.job command dir sock ∧
        (known.socket = some (sock, true) ∨ known.probe.taken = some (pidPath dir))
  | .removedRegistration plist =>
      plist = plistOf env ∧ known.job.removed = some plist
  | .pidUnverified sock label => label = launchAgentLabel env ∧
      (known.launchd.asked = true ∧ known.launchd.running = none) ∧
        AcceptingAt env command known sock
  | .stateUnverified sock label => label = launchAgentLabel env ∧
      (known.launchd.asked = true ∧ known.launchd.loaded = none) ∧
        AcceptingAt env command known sock
  | .bootoutFailed _ =>
      known.launchd.loaded ≠ some false ∧ known.launchd.ordered = true
  | .escalating => ∃ pid, Overdue known pid
  | .stopFailed _ => ∃ dir, LivesIn env command known dir ∧
      known.probe.taken = some (pidPath dir)
  | .stillAccepting sock => AcceptingAt env command known sock
  | .noStopNote label => label = launchAgentLabel env ∧
      known.launchd.asked = false ∧ known.launchd.ordered = false

end Command

/-- The property list goes only when launchd is known not to have the job, or when
the user has been told that it may. -/
def MayRemove (known : Known) (path : String) : Prop :=
  path = plistOf env → known.launchd.loaded = some false ∨ known.noted = true

variable (parseAddr : String → Except String String)

def Allowed (command : Command) (known : Known) : Op → Prop
  | .launchctl request => request.Ours env ∧ (request.startsJob = true →
      ∃ registered dir, Unopposed env known registered dir)
  | .kill pid (some .term) =>
      Aimed env command known pid ∧ MayStop env command known
  | .kill pid (some .kill) => Overdue known pid
  | .removeFile path => MayRemove env known path
  | .println line | .eprintln line => Grounded env command known parseAddr line
  | _ => True

abbrev watch (command : Command) : Monitor Op Op.Answer where
  Memory := Known
  allowed := Allowed env parseAddr command
  remember := remember env

end Remember

end Bowerbird.Commands.Lifecycle
