import Bowerbird.Commands.Lifecycle

namespace Bowerbird.Commands.Lifecycle

open Foundation Program LaunchAgent

/-! The daemon under launchd: what `launchctl` is asked, how its answers are taken,
and the four commands on macOS. -/

def launchAgentLabel (env : CliEnv) : String :=
  (nonEmpty env.agentLabel).getD "com.technicalpickles.bowerbird.daemon"

def launchAgentsDir (env : CliEnv) : Except String String :=
  match nonEmpty env.agentsDir with
  | some dir => .ok dir
  | none => (homeDir env).map fun home => join (join home "Library") "LaunchAgents"

/-- `Path::join`, with a name that may be a path of its own. -/
def joinAny (directory name : String) : String :=
  if isAbsolute name then name else join directory name

def plistPath (env : CliEnv) : Except String String :=
  (launchAgentsDir env).map fun dir => joinAny dir (launchAgentLabel env ++ ".plist")

def domain (env : CliEnv) : String :=
  s!"gui/{env.uid}"

def target (env : CliEnv) : String :=
  domain env ++ "/" ++ launchAgentLabel env

/-! The daemon's executable. -/

def isExecutable : Option Metadata → Bool
  | none => false
  | some metadata => metadata.isFile && metadata.mode &&& 0o111 != 0

def isExecutableFile (path : String) : Action Bool := do
  let metadata ← ask (.metadata path)
  return isExecutable metadata

def ensureDaemonLaunchable (path : String) : Action Unit := do
  if ← isExecutableFile path then return ()
  else
    fail [s!"daemon binary at {path} is not an executable file; refusing to bootstrap a " ++
      "LaunchAgent launchd cannot exec (point BOWERBIRD_DAEMON_BIN at an executable " ++
      "bowerbird-daemon, ensure it ships alongside the `bowerbird` CLI or is on PATH, or " ++
      "pass --no-start to pre-register the plist before the binary is in place)"]

def daemonBinIn (dir : String) : String :=
  join dir "bowerbird-daemon"

def searchPathAbsolute : List String → Action (Option String)
  | [] => return none
  | dir :: rest => do
      if dir = "" then searchPathAbsolute rest
      else if ← isExecutableFile (daemonBinIn dir) then
        match ← ask (.canonicalize (daemonBinIn dir)) with
        | .ok path => return some path
        | .error _ =>
            if isAbsolute (daemonBinIn dir) then return some (daemonBinIn dir)
            else searchPathAbsolute rest
      else searchPathAbsolute rest

def sibling : Option String → Action (Option String)
  | none => return none
  | some dir => do
      if ← isExecutableFile (daemonBinIn dir) then return some (daemonBinIn dir)
      else return none

def resolveDaemonBinAbsolute (env : CliEnv) : Action String := do
  match nonEmpty env.daemonBin with
  | some bin =>
      if isAbsolute bin then return bin
      else
        fail [s!"BOWERBIRD_DAEMON_BIN is set to a non-absolute path ({bin}); launchd " ++
          "needs an absolute daemon path"]
  | none =>
      match ← sibling env.exeDir with
      | some bin => return bin
      | none =>
          match ← searchPathAbsolute env.path with
          | some bin => return bin
          | none =>
              fail ["could not resolve an absolute path to `bowerbird-daemon` for the " ++
                "launchd plist (set BOWERBIRD_DAEMON_BIN to an absolute path, or ensure " ++
                "`bowerbird-daemon` ships alongside the `bowerbird` CLI or is on PATH)"]

/-! The property list on disk. -/

/-- `count` is how many such names the process has drawn before. -/
def uniqueTmpPath (env : CliEnv) (count : Nat) (plist : String) : String :=
  join ((parent plist).getD "") s!"{fileName plist}.{env.pid}.{count}.tmp"

def createParent (plist : String) : Action Unit := do
  match parent plist with
  | none => return ()
  | some dir => orFail ("create LaunchAgents dir " ++ dir) (← ask (.createDirAll dir))

/-- Give the temporary file its mode and its name, or remove it again. -/
def publishPlist (tmp plist : String) : Action Unit := do
  match ← ask (.setMode tmp 0o644) with
  | .error error =>
      let _ ← ask (.removeFile tmp)
      fail ["chmod 0644 " ++ tmp, error.text]
  | .ok () =>
      match ← ask (.rename tmp plist) with
      | .error error =>
          let _ ← ask (.removeFile tmp)
          fail [s!"rename {tmp} -> {plist}", error.text]
      | .ok () => return ()

def writeLaunchAgentPlist (env : CliEnv) (plist xml : String) : Action Unit := do
  createParent plist
  orFail ("write " ++ uniqueTmpPath env 0 plist)
    (← ask (.writeFile (uniqueTmpPath env 0 plist) xml))
  publishPlist (uniqueTmpPath env 0 plist) plist

def removeLaunchAgentPlist (plist : String) : Action Unit := do
  match ← ask (.removeFile plist) with
  | .ok () => return ()
  | .error error =>
      if error.code = OsError.enoent then return ()
      else fail ["remove launch agent plist " ++ plist, error.text]

def environmentOf : Except OsError String → List (String × String)
  | .ok xml => parsePlistEnvironment xml
  | .error _ => []

def programOf : Except OsError String → Option String
  | .ok xml => parsePlistProgram xml
  | .error _ => none

def registeredPlistEnv (plist : String) : Action (List (String × String)) := do
  let read ← ask (.readFile plist)
  return environmentOf read

def registeredPlistProgram (plist : String) : Action (Option String) := do
  let read ← ask (.readFile plist)
  return programOf read

def registeredValue (registered : List (String × String)) (key : String) :
    Option String :=
  (registered.find? (·.1 = key)).map Prod.snd

def sunPathMax : Nat := 104

def ensureIngestSockLen (sock : String) : Action Unit :=
  if sock.utf8ByteSize + 1 ≤ sunPathMax then return ()
  else
    fail [s!"the ingest socket path is too long for a Unix domain socket: {sock} is " ++
      s!"{sock.utf8ByteSize} bytes but the platform limit (sockaddr_un.sun_path) allows " ++
      s!"{sunPathMax - 1} — the daemon would fail to bind it after launchd starts the job " ++
      "and crash-loop under KeepAlive; choose a shorter data dir or " ++
      "BOWERBIRD_INGEST_SOCK"]

/-! `launchctl`, and what its answers mean. -/

namespace LaunchctlOutput

def codeDisplay (output : LaunchctlOutput) : String :=
  match output.code with
  | some code => toString code
  | none => "signal"

def stderrTrimmed (output : LaunchctlOutput) : String :=
  String.ofList (Api.trim output.stderr.toList)

def display (output : LaunchctlOutput) : String :=
  "[" ++ output.codeDisplay ++ "] " ++ output.stderrTrimmed

end LaunchctlOutput

/-- The text, in lower case, has one of the phrases in it. -/
def mentions (text : String) (phrases : List String) : Bool :=
  phrases.any fun phrase =>
    (Substring.find phrase.toList (text.toList.map Api.toAsciiLowercase)).isSome

def stderrSignalsAlreadyLoaded (stderr : String) : Bool :=
  mentions stderr ["already loaded", "already bootstrapped", "service already loaded",
    "already in progress", "failed: 37"]

def signalsAlreadyUnloaded (code : Option Int) (stderr : String) : Bool :=
  code == some 3 ||
    mentions stderr ["no such", "could not find", "not find", "not loaded"]

def printSignalsAbsent (code : Option Int) (stderr : String) : Bool :=
  code == some 113 ||
    mentions stderr ["could not find", "no such", "not find", "not loaded"]

def alreadyLoaded (output : LaunchctlOutput) : Bool :=
  stderrSignalsAlreadyLoaded output.stderr

def alreadyUnloaded (output : LaunchctlOutput) : Bool :=
  signalsAlreadyUnloaded output.code output.stderr

def LaunchctlOutput.absent (output : LaunchctlOutput) : Bool :=
  printSignalsAbsent output.code output.stderr

def trimStart (chars : List Char) : List Char :=
  chars.dropWhile Api.isWhitespace

/-- The number of a line `pid = <N>`. -/
def pidOfLine (line : List Char) : Option Int :=
  match trimStart line with
  | 'p' :: 'i' :: 'd' :: rest =>
      match trimStart rest with
      | '=' :: value => parseI32 (Api.trim value)
      | _ => none
  | _ => none

def parseLaunchctlPrintPid (stdout : String) : Option Int :=
  (stdout.toList.splitOn '\n').findSome? pidOfLine

def runLaunchctl (request : Request) : Action LaunchctlOutput := do
  match ← ask (.launchctl request) with
  | .ok output => return output
  | .error error =>
      fail ["invoke `launchctl " ++ " ".intercalate request.args ++ "`", error.text]

section Launchd

variable (env : CliEnv)

def unverified (what : String) (output : LaunchctlOutput) : String :=
  s!"could not verify launchd {what} for {target env}: `launchctl print` exited " ++
    output.display

def agentLoaded : Action Bool := do
  let output ← runLaunchctl (.print (target env))
  if output.success then return true
  else if output.absent then return false
  else fail [unverified env "state" output]

def launchAgentRunningPid : Action (Option Int) := do
  let output ← runLaunchctl (.print (target env))
  if output.success then return parseLaunchctlPrintPid output.stdout
  else if output.absent then return none
  else fail [unverified env "pid" output]

inductive LoadState where
  | loaded
  | notLoaded
  | unknown
  deriving Repr, DecidableEq

def launchAgentLoadState : Action LoadState := do
  match ← attempted (agentLoaded env) with
  | .ok true => return .loaded
  | .ok false => return .notLoaded
  | .error _ => return .unknown

/-- `load -w`, after `bootstrap` has failed. -/
def loadLegacy (plist : String) (modern : LaunchctlOutput) : Action Unit := do
  let legacy ← runLaunchctl (.load plist)
  if legacy.success || alreadyLoaded legacy then return ()
  else if ← agentLoaded env then return ()
  else
    fail [s!"launchctl could not load {plist}: bootstrap -> " ++ modern.display ++
      "; load -w -> " ++ legacy.display]

def bootstrapLaunchAgent (plist : String) : Action Unit := do
  let modern ← runLaunchctl (.bootstrap (domain env) plist)
  if modern.success || alreadyLoaded modern then return ()
  else
    match ← attempted (agentLoaded env) with
    | .ok true => return ()
    -- what cannot be verified must not keep the legacy command from being tried
    | .ok false | .error _ => loadLegacy env plist modern

def unloadLegacy (plist : String) (modern : LaunchctlOutput) : Action Unit := do
  let legacy ← runLaunchctl (.unload plist)
  if legacy.success || alreadyUnloaded legacy then return ()
  else if ← agentLoaded env then
    fail [s!"launchctl could not unload {target env}: bootout -> " ++ modern.display ++
      "; unload -> " ++ legacy.display]
  else return ()

def bootoutLaunchAgent (plist : String) : Action Unit := do
  let modern ← runLaunchctl (.bootout (target env))
  if modern.success || alreadyUnloaded modern then return ()
  else
    match ← attempted (agentLoaded env) with
    | .ok false => return ()
    | .ok true | .error _ => unloadLegacy env plist modern

def kickstartLaunchAgent : Action Unit := do
  let output ← runLaunchctl (.kickstart (target env))
  if output.success then return ()
  else fail [s!"launchctl could not kickstart {target env}: " ++ output.display]

end Launchd

/-! `start` -/

section Start

variable (parseAddr : String → Except String String) (quoted : String → String)
variable (env : CliEnv) (turns : Nat)

/-- Where launchd runs the daemon: the property list's own directory, or the default,
whatever this process's environment holds. -/
def registeredDir (registered : List (String × String)) : Except String String :=
  match registeredValue registered "BOWERBIRD_DATA_DIR" with
  | some dir => .ok dir
  | none => (homeDir env).map fun home => join home ".bowerbird"

def registeredSock (registered : List (String × String)) (dir : String) : String :=
  (registeredValue registered "BOWERBIRD_INGEST_SOCK").getD (join dir "ingest.sock")

/-- The job is loaded and something accepts on its socket: is it the job's own
process?  Whether it has to be replaced. -/
def matchRunning (dir sock : String) : Action Bool := do
  match ← attempted (launchAgentRunningPid env) with
  | .ok (some pid) =>
      if (← singletonState dir) = .held pid then
        say (.alreadyUnderLaunchd pid)
        return false
      else
        say (.migratingUnmatched sock)
        return true
  | .ok none =>
      say (.migratingUnmatched sock)
      return true
  | .error _ =>
      ask (.eprintln (.pidUnverified sock (launchAgentLabel env)))
      say .alreadyRunning
      return false

def superviseRunning (dir sock : String) : Action Bool := do
  match ← launchAgentLoadState env with
  | .loaded => matchRunning env dir sock
  | .unknown =>
      ask (.eprintln (.stateUnverified sock (launchAgentLabel env)))
      say .alreadyRunning
      return false
  | .notLoaded =>
      say .migrating
      return true

def singletonHeld : String :=
  "stop the unsupervised daemon holding the singleton before launchd start"

def clearSingleton (dir : String) : Action Unit := do
  if (← singletonState dir) = .free then return ()
  else
    let _ ← within singletonHeld (stopDaemonViaPidFile turns dir)
    if (← singletonState dir) = .free then return ()
    else
      fail [s!"a daemon is still holding the singleton for {dir} after attempting to " ++
        "stop it; launchd cannot start over it (it would fail the singleton lock and " ++
        "crash-loop) — stop that daemon, then re-run `bowerbird start`"]

def ensureSocketDown (sock : String) : Action Unit := do
  if ← daemonIsUp sock then
    fail [s!"a daemon is still accepting on {sock} but no bowerbird singleton holder " ++
      "could be stopped; refusing to start launchd over a daemon it cannot manage — stop " ++
      "that daemon, then re-run `bowerbird start`"]
  else return ()

def revalidateProgram (plist : String) : Action Unit := do
  match ← registeredPlistProgram plist with
  | some program =>
      within "the registered LaunchAgent daemon binary is not launchable"
        (ensureDaemonLaunchable program)
  | none => return ()

def launchJob (plist : String) : Action Unit := do
  match ← launchAgentLoadState env with
  | .loaded =>
      within "kickstart the registered launch agent" (kickstartLaunchAgent env)
  | .notLoaded | .unknown =>
      within "bootstrap the registered launch agent" (bootstrapLaunchAgent env plist)

def startOver (plist dir sock : String) : Action Unit := do
  clearSingleton turns dir
  ensureSocketDown sock
  revalidateProgram plist
  let _ ← ask (.removeFile (serverJsonPath dir))
  launchJob env plist
  say .startedViaLaunchd
  waitForReady parseAddr quoted turns dir "daemon started via launchd"

def startRegistered (plist : String) : Action Unit := do
  let registered ← registeredPlistEnv plist
  let dir ← ofExcept (registeredDir env registered)
  ensureIngestSockLen (registeredSock registered dir)
  if ← daemonIsUp (registeredSock registered dir) then
    if ← superviseRunning env dir (registeredSock registered dir) then
      startOver parseAddr quoted env turns plist dir (registeredSock registered dir)
    else return ()
  else startOver parseAddr quoted env turns plist dir (registeredSock registered dir)

def start : Action Unit := do
  let bowerbirdDir ← ofExcept (resolveBowerbirdDir env)
  let plist ← ofExcept (plistPath env)
  match ← ask (.pathExists plist) with
  | true => startRegistered parseAddr quoted env turns plist
  | false => startDetached parseAddr quoted env turns bowerbirdDir

end Start

/-! `stop` -/

section Stop

variable (env : CliEnv) (turns : Nat)

def stop : Action Unit := do
  let plist ← ofExcept (plistPath env)
  match ← launchAgentLoadState env with
  | .loaded =>
      within "boot the bowerbird LaunchAgent out to stop the daemon"
        (bootoutLaunchAgent env plist)
      say .paused
      stopViaPidFile env turns false
  | .notLoaded => stopViaPidFile env turns true
  | .unknown =>
      match ← attempted (bootoutLaunchAgent env plist) with
      | .ok () => stopViaPidFile env turns true
      | .error error =>
          ask (.eprintln (.bootoutFailed error.display))
          stopViaPidFile env turns true

end Stop

/-! `install`, after the settings, and `uninstall`, after the settings. -/

section Install

variable (env : CliEnv) (turns : Nat)

/-- A socket that is set has to be absolute, and gets its directory. -/
def prepareSock : Option String → Action Unit
  | none => return ()
  | some sock => do
      if isAbsolute sock then
        match parent sock with
        | none => return ()
        | some dir =>
            orFail (s!"create parent directory {dir} for BOWERBIRD_INGEST_SOCK {sock}")
              (← ask (.createDirAll dir))
      else
        fail [s!"BOWERBIRD_INGEST_SOCK is set to a non-absolute path ({sock}); launchd, " ++
          "the shim, and later `bowerbird` commands resolve it against differing working " ++
          "directories, so they would not agree on the ingest socket — set an absolute " ++
          "path before installing"]

def canonicalDir (dir : String) : Action String := do
  orFail ("create data dir " ++ dir) (← ask (.createDirAll dir))
  match ← ask (.canonicalize dir) with
  | .ok path => return path
  | .error error => fail ["resolve an absolute data dir from " ++ dir, error.text]

def plistEnv (dirAbs : String) : List (String × String) :=
  ("BOWERBIRD_DATA_DIR", dirAbs) ::
    ((nonEmpty env.ingestSock).map ("BOWERBIRD_INGEST_SOCK", ·)).toList

def plistXml (daemonPath dirAbs : String) : String :=
  renderLaunchAgentPlist (launchAgentLabel env) daemonPath dirAbs (plistEnv env dirAbs)

def registerPlist (plist xml : String) : Action Unit :=
  within ("write launch agent plist " ++ plist) (writeLaunchAgentPlist env plist xml)

def bootoutLoaded (plist : String) : Action Unit := do
  match ← launchAgentLoadState env with
  | .loaded | .unknown =>
      within "bootout previously-loaded launch agent before re-bootstrap"
        (bootoutLaunchAgent env plist)
  | .notLoaded => return ()

/-- Does anything stand in the way of the job? -/
def contended (dir sock : String) : Action Bool := do
  if ← daemonIsUp sock then return true
  else return (← singletonState dir) ≠ .free

def handOffError : Stop → Stop
  | .failed chain =>
      .failed ["could not stop the running daemon before handing off to launchd " ++
        s!"({Stop.display (.failed chain)}); refusing to bootstrap (a launchd start would " ++
        "fail the singleton lock and crash-loop) — run `bowerbird stop` and re-run " ++
        "install"]
  | .unfinished => .unfinished

def stopContender (dir sock : String) : Action Unit := do
  say .stoppingUnsupervised
  let _ ← mapFailure handOffError (stopDaemonViaPidFile turns dir)
  if ← daemonIsUp sock then
    fail [s!"a daemon is still accepting on {sock} after attempting to stop it; " ++
      "refusing to bootstrap launchd over a daemon it cannot manage (stop that daemon, " ++
      "then re-run install)"]
  else if (← singletonState dir) = .free then return ()
  else
    fail [s!"a daemon is still holding the singleton for {dir} after attempting to stop " ++
      "it (its ingest socket is down, so it is wedged before bind or bound to a previous " ++
      "socket); refusing to bootstrap launchd over a daemon it cannot manage (stop that " ++
      "daemon, then re-run install)"]

def handOff (plist dir dirAbs : String) : Action Unit := do
  bootoutLoaded env plist
  if ← contended dir (effectiveIngestSock env dirAbs) then
    stopContender turns dir (effectiveIngestSock env dirAbs)
    within ("bootstrap launch agent " ++ plist) (bootstrapLaunchAgent env plist)
    say .startedViaLaunchd
  else
    within ("bootstrap launch agent " ++ plist) (bootstrapLaunchAgent env plist)
    say .startedViaLaunchd

def superviseOrStart (noStart : Bool) : Action Unit := do
  let plist ← ofExcept (plistPath env)
  let daemonPath ← resolveDaemonBinAbsolute env
  let dir ← ofExcept (resolveBowerbirdDir env)
  let dirAbs ← canonicalDir dir
  prepareSock (nonEmpty env.ingestSock)
  ensureIngestSockLen (effectiveIngestSock env dirAbs)
  if noStart then
    registerPlist env plist (plistXml env daemonPath dirAbs)
    say (.registeredOnly plist)
  else
    ensureDaemonLaunchable daemonPath
    registerPlist env plist (plistXml env daemonPath dirAbs)
    say (.registered plist)
    handOff env turns plist dir dirAbs

def removeRegistration (plist : String) : Action Unit := do
  within ("remove launch agent plist " ++ plist) (removeLaunchAgentPlist plist)
  say (.removedRegistration plist)

def uninstallDir (registered : List (String × String)) : Except String String :=
  match registeredValue registered "BOWERBIRD_DATA_DIR" with
  | some dir => .ok dir
  | none => resolveBowerbirdDir env

def uninstallSock (registered : List (String × String)) (dir : String) : String :=
  (registeredValue registered "BOWERBIRD_INGEST_SOCK").getD
    (effectiveIngestSock env dir)

def warnIfAccepting (sock : String) : Action Unit := do
  if ← daemonIsUp sock then ask (.eprintln (.stillAccepting sock))
  else return ()

def stopLeftover (dir : String) : Action Unit := do
  match ← attempted (stopDaemonViaPidFile turns dir) with
  | .ok _ => return ()
  | .error .unfinished => throw .unfinished
  | .error (.failed chain) =>
      ask (.eprintln (.stopFailed (Stop.display (.failed chain))))

def teardownSupervision (noStop : Bool) : Action Unit := do
  let plist ← ofExcept (plistPath env)
  if noStop then
    ask (.eprintln (.noStopNote (launchAgentLabel env)))
    removeRegistration plist
  else
    let registered ← registeredPlistEnv plist
    let dir ← ofExcept (uninstallDir env registered)
    within "boot the bowerbird LaunchAgent out of launchd" (bootoutLaunchAgent env plist)
    stopLeftover turns dir
    warnIfAccepting (uninstallSock env registered dir)
    removeRegistration plist

end Install

inductive Command where
  | start
  | stop
  | install (noStart : Bool)
  | uninstall (noStop : Bool)
  deriving Repr, DecidableEq

/-- `install` and `uninstall` without what they do to the settings. -/
def Command.run (parseAddr : String → Except String String)
    (quoted : String → String) (env : CliEnv) (turns : Nat) : Command → Action Unit
  | start => Lifecycle.start parseAddr quoted env turns
  | stop => Lifecycle.stop env turns
  | install noStart => superviseOrStart env turns noStart
  | uninstall noStop => teardownSupervision env turns noStop

end Bowerbird.Commands.Lifecycle
