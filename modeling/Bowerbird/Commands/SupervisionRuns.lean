import Bowerbird.Commands.SupervisionSafety

namespace Bowerbird.Commands.Lifecycle

open Foundation Program LaunchAgent

/-! What stands in a run before a command acts. -/

abbrev Run : Type :=
  List (Exchange Op Op.Answer)

variable {env : CliEnv} {command : Command}

/-- These questions were asked in this order, with these answers. -/
def Saw (run exchanges : Run) : Prop :=
  exchanges.Sublist run

theorem Saw.later {run exchanges : Run} (saw : Saw run exchanges) (more : Run) :
    Saw (run ++ more) exchanges :=
  saw.trans (List.sublist_append_left run more)

theorem Saw.next {run exchanges : Run} (saw : Saw run exchanges)
    (exchange : Exchange Op Op.Answer) :
    Saw (run ++ [exchange]) (exchanges ++ [exchange]) :=
  List.Sublist.append saw (List.Sublist.refl _)

theorem found_next (env : CliEnv) (run : Run) (exchange : Exchange Op Op.Answer) :
    found env (run ++ [exchange]) =
      remember env (found env run) exchange.1 exchange.2 := by
  rw [found, found, List.foldl_append]
  rfl

/-! The probe of the singleton. -/

def refusedLock (path : String) : Exchange Op Op.Answer :=
  ⟨.flock path, false⟩

def readText (path text : String) : Exchange Op Op.Answer :=
  ⟨.readFile path, .ok text⟩

def pidAsked (pid : Int) (answer : Except OsError Unit) : Exchange Op Op.Answer :=
  ⟨.kill pid none, answer⟩

/-- What is known by a probe was asked, in this order. -/
structure Probed (run : Run) (probe : Probe) : Prop where
  refused : ∀ path, probe.refused = some path → Saw run [refusedLock path]
  opened : ∀ path other, probe.refused = some path → probe.opened = some other →
    path = other
  unnamed : ∀ path, probe.opened = some path → probe.named = none
  named : ∀ path pid, probe.refused = some path → probe.named = some pid →
    ∃ text, parsePid text = some pid ∧ Saw run [refusedLock path, readText path text]
  held : ∀ path pid, probe.held = some (path, pid) → ∃ text answer,
    parsePid text = some pid ∧ answersAlive answer = true ∧
      Saw run [refusedLock path, readText path text, pidAsked pid answer]

namespace Probed

variable {run : Run} {probe : Probe}

theorem later (probed : Probed run probe) (more : Run) : Probed (run ++ more) probe where
  refused path same := (probed.refused path same).later more
  opened := probed.opened
  unnamed := probed.unnamed
  named path pid same name := by
    obtain ⟨text, parsed, saw⟩ := probed.named path pid same name
    exact ⟨text, parsed, saw.later more⟩
  held path pid same := by
    obtain ⟨text, answer, parsed, alive, saw⟩ := probed.held path pid same
    exact ⟨text, answer, parsed, alive, saw.later more⟩

theorem unfree (probed : Probed run probe) :
    Probed run { probe with free := none } :=
  { probed with }

theorem begin (run : Run) (probe : Probe) (path : String)
    (opened : Except OsError Unit) : Probed run (probe.begin path opened) := by
  cases opened <;>
    exact ⟨nofun, nofun, fun _ _ => rfl, nofun, nofun⟩

theorem lock (probed : Probed run probe) (path : String) (acquired : Bool) :
    Probed (run ++ [⟨.flock path, acquired⟩]) (probe.lock path acquired) := by
  have probed := probed.later [⟨.flock path, acquired⟩]
  cases acquired with
  | true => exact { probed with opened := nofun, unnamed := nofun }
  | false =>
      by_cases same : probe.opened = some path
      · have unnamed := probed.unnamed path same
        simp only [Probe.lock, Bool.false_eq_true, if_false, same, if_true]
        constructor
        · rintro _ ⟨⟩
          exact List.sublist_append_right run _
        · rintro _ _ ⟨⟩ ⟨⟩
          rfl
        · exact fun _ _ => unnamed
        · intro other pid _ name
          exact absurd (unnamed.symm.trans name) nofun
        · exact probed.held
      · simp only [Probe.lock, Bool.false_eq_true, if_false, same]
        exact probed

theorem read (probed : Probed run probe) {path : String}
    (opened : probe.opened = some path) (read : Except OsError String) :
    Probed (run ++ [⟨.readFile path, read⟩]) (probe.read read) := by
  have later := probed.later [⟨.readFile path, read⟩]
  cases read with
  | error error => exact { later with opened := nofun, unnamed := nofun, named := nofun }
  | ok text =>
      refine { later with opened := nofun, unnamed := nofun, named := ?_ }
      intro refused pid same name
      obtain rfl := probed.opened refused path same opened
      exact ⟨text, name, (probed.refused refused same).next _⟩

theorem ask (probed : Probed run probe) (pid : Int) (answer : Except OsError Unit) :
    Probed (run ++ [⟨.kill pid none, answer⟩])
      (probe.ask pid (answersAlive answer)) := by
  have later := probed.later [⟨.kill pid none, answer⟩]
  refine { later with held := ?_ }
  intro path holder same
  simp only [Probe.ask] at same
  split at same
  · rename_i alive
    obtain ⟨_, locked, ⟨⟩⟩ := Option.map_eq_some_iff.mp same
    obtain ⟨text, parsed, saw⟩ := probed.named _ _ locked alive.1
    exact ⟨text, answer, parsed, alive.2, saw.next _⟩
  · cases same

end Probed

/-! The process that was sent SIGTERM. -/

def termSent (pid : Int) : Exchange Op Op.Answer :=
  ⟨.kill pid (some .term), .ok ()⟩

def timeTold (time : Nat) : Exchange Op Op.Answer :=
  ⟨.now, time⟩

/-- The times that are known were told after the SIGTERM. -/
structure Timed (run : Run) (sent : Sent) : Prop where
  termed : ∀ pid, sent.termed = some pid → Saw run [termSent pid]
  since : ∀ pid time, sent.termed = some pid → sent.since = some time →
    Saw run [termSent pid, timeTold time]
  clock : ∀ pid since time, sent.termed = some pid → sent.since = some since →
    sent.clock = some time → time = since ∨
      Saw run [termSent pid, timeTold since, timeTold time]

namespace Timed

variable {run : Run} {sent : Sent}

theorem later (timed : Timed run sent) (more : Run) : Timed (run ++ more) sent where
  termed pid same := (timed.termed pid same).later more
  since pid time same told := (timed.since pid time same told).later more
  clock pid since time same started told :=
    (timed.clock pid since time same started told).imp_right (·.later more)

theorem term (run : Run) (sent : Sent) (pid : Int) (holding : Option String) :
    Timed (run ++ [termSent pid])
      { sent with
        termed := some pid, holding := holding, killed := none, since := none } where
  termed := by
    rintro _ ⟨⟩
    exact List.sublist_append_right run _
  since := nofun
  clock := nofun

theorem kill (timed : Timed run sent) (pid : Int) :
    Timed run { sent with killed := some pid } :=
  ⟨timed.termed, timed.since, timed.clock⟩

theorem now (timed : Timed run sent) (time : Nat) :
    Timed (run ++ [timeTold time])
      { sent with clock := some time, since := sent.since.or (some time) } := by
  constructor
  · intro pid same
    exact (timed.termed pid same).later _
  · intro pid since same started
    cases known : sent.since with
    | none =>
        rw [known] at started
        cases started
        exact (timed.termed pid same).next _
    | some earlier =>
        rw [known] at started
        cases started
        exact (timed.since pid _ same known).later _
  · rintro pid since _ same started ⟨⟩
    cases known : sent.since with
    | none =>
        rw [known] at started
        cases started
        exact .inl rfl
    | some earlier =>
        rw [known] at started
        cases started
        exact .inr ((timed.since pid _ same known).next _)

end Timed

/-! The way to the job. -/

/-- Somebody may have gone by this. -/
def Stops : Exchange Op Op.Answer → Prop
  | ⟨.kill _ (some _), .ok ()⟩ => True
  | ⟨.launchctl (.bootout _), _⟩ => True
  | ⟨.launchctl (.unload _), _⟩ => True
  | _ => False

/-- This was answered, and nobody has been stopped since. -/
def SinceStop (run : Run) (exchange : Exchange Op Op.Answer) : Prop :=
  ∃ early late, run = early ++ exchange :: late ∧ ∀ other ∈ late, ¬ Stops other

namespace SinceStop

variable {run : Run} {exchange : Exchange Op Op.Answer}

theorem here (run : Run) (exchange : Exchange Op Op.Answer) :
    SinceStop (run ++ [exchange]) exchange :=
  ⟨run, [], rfl, nofun⟩

theorem later (since : SinceStop run exchange) {other : Exchange Op Op.Answer}
    (calm : ¬ Stops other) : SinceStop (run ++ [other]) exchange := by
  obtain ⟨early, late, rfl, quiet⟩ := since
  refine ⟨early, late ++ [other], by simp only [List.append_assoc, List.cons_append], ?_⟩
  intro next among
  rcases List.mem_append.mp among with earlier | last
  · exact quiet next earlier
  · obtain rfl := List.mem_singleton.mp last
    exact calm

end SinceStop

/-- The pid file was not there, or its lock was free. -/
def Freed (run : Run) (path : String) : Prop :=
  (∃ error, error.code = OsError.enoent ∧ SinceStop run ⟨.openFile path, .error error⟩) ∨
    SinceStop run ⟨.flock path, true⟩

theorem Freed.later {run : Run} {path : String} (freed : Freed run path)
    {other : Exchange Op Op.Answer} (calm : ¬ Stops other) :
    Freed (run ++ [other]) path :=
  freed.imp (fun ⟨error, gone, since⟩ => ⟨error, gone, since.later calm⟩) (·.later calm)

structure Cleared (run : Run) (free : Option String) (socket : Option (String × Bool)) :
    Prop where
  freed : ∀ path, free = some path → Freed run path
  connected : ∀ sock up, socket = some (sock, up) → SinceStop run ⟨.connect sock, up⟩

namespace Cleared

variable {run : Run} {free : Option String} {socket : Option (String × Bool)}

theorem later (cleared : Cleared run free socket) {other : Exchange Op Op.Answer}
    (calm : ¬ Stops other) : Cleared (run ++ [other]) free socket where
  freed path same := (cleared.freed path same).later calm
  connected sock up same := (cleared.connected sock up same).later calm

theorem begin (cleared : Cleared run free socket) (probe : Probe) (path : String)
    (opened : Except OsError Unit) :
    Cleared (run ++ [⟨.openFile path, opened⟩]) (probe.begin path opened).free socket := by
  have later : Cleared (run ++ [⟨.openFile path, opened⟩]) free socket :=
    cleared.later id
  cases opened with
  | ok => exact ⟨nofun, later.connected⟩
  | error error =>
      refine ⟨fun other same => ?_, later.connected⟩
      simp only [Probe.begin] at same
      split at same
      · rename_i gone
        cases same
        exact .inl ⟨error, gone, .here run _⟩
      · cases same

theorem lock (cleared : Cleared run free socket) {probe : Probe}
    (known : probe.free = free) (path : String) (acquired : Bool) :
    Cleared (run ++ [⟨.flock path, acquired⟩]) (probe.lock path acquired).free socket := by
  have later : Cleared (run ++ [⟨.flock path, acquired⟩]) free socket :=
    cleared.later id
  cases acquired with
  | true =>
      refine ⟨?_, later.connected⟩
      rintro _ ⟨⟩
      exact .inr (.here run _)
  | false =>
      have same : (probe.lock path false).free = free := by
        simp only [Probe.lock, Bool.false_eq_true, if_false]
        split <;> exact known
      rw [same]
      exact later

end Cleared

/-! All that is known in a run. -/

structure Recorded (run : Run) (known : Known) : Prop where
  probed : Probed run known.probe
  timed : Timed run known.sent
  cleared : Cleared run known.probe.free known.socket

namespace Recorded

variable {run : Run} {known : Known}

theorem later (recorded : Recorded run known) {other : Exchange Op Op.Answer}
    (calm : ¬ Stops other) : Recorded (run ++ [other]) known :=
  ⟨recorded.probed.later _, recorded.timed.later _, recorded.cleared.later calm⟩

theorem stopped (recorded : Recorded run known) (other : Exchange Op Op.Answer) :
    Recorded (run ++ [other]) known.stopped :=
  ⟨(recorded.probed.later _).unfree, recorded.timed.later _, ⟨nofun, nofun⟩⟩

theorem signal (recorded : Recorded run known) (pid : Int) (signal : Signal)
    (answer : Except OsError Unit) :
    Recorded (run ++ [⟨.kill pid (some signal), answer⟩])
      (known.signal pid signal answer) := by
  cases answer with
  | error error =>
      have later : Recorded (run ++ [⟨.kill pid (some signal), .error error⟩]) known :=
        recorded.later id
      cases signal with
      | term => exact later
      | kill => exact { later with timed := later.timed.kill pid }
  | ok =>
      have stopped := recorded.stopped ⟨.kill pid (some signal), .ok ()⟩
      cases signal with
      | term => exact { stopped with timed := .term run known.sent pid _ }
      | kill => exact { stopped with timed := stopped.timed.kill pid }

theorem asked (recorded : Recorded run known) (request : Request)
    (answer : Except OsError LaunchctlOutput) :
    Recorded (run ++ [⟨.launchctl request, answer⟩]) (known.asked request) := by
  have later (calm : ¬ Stops ⟨.launchctl request, answer⟩) := recorded.later calm
  cases request with
  | print | bootstrap | load | kickstart => exact later id
  | bootout | unload => exact recorded.stopped _

theorem launchctl (env : CliEnv) (recorded : Recorded run known) (request : Request)
    (answer : Except OsError LaunchctlOutput) :
    Recorded (run ++ [⟨.launchctl request, answer⟩])
      (known.launchctl env request answer) := by
  have asked := recorded.asked request answer
  unfold Known.launchctl
  split
  · exact { asked with }
  · exact asked

/-- One more answer. -/
theorem next (env : CliEnv) (recorded : Recorded run known)
    (exchange : Exchange Op Op.Answer) :
    Recorded (run ++ [exchange]) (remember env known exchange.1 exchange.2) := by
  obtain ⟨op, answer⟩ := exchange
  have later (calm : ¬ Stops ⟨op, answer⟩) := recorded.later calm
  cases op with
  | openFile path =>
      exact ⟨.begin _ known.probe path answer, recorded.timed.later _,
        recorded.cleared.begin known.probe path answer⟩
  | flock path =>
      exact ⟨recorded.probed.lock path answer, recorded.timed.later _,
        recorded.cleared.lock rfl path answer⟩
  | readFile path =>
      have later := later id
      simp only [remember]
      split
      · rename_i opened
        refine ⟨recorded.probed.read opened answer, later.timed, ?_⟩
        cases answer <;> exact later.cleared
      · split
        · exact { later with }
        · exact { later with }
  | pathExists path =>
      have later := later id
      simp only [remember]
      split
      · exact { later with }
      · exact later
  | kill pid signal =>
      cases signal with
      | none =>
          exact ⟨recorded.probed.ask pid answer, recorded.timed.later _,
            recorded.cleared.later id⟩
      | some signal => exact recorded.signal pid signal answer
  | now =>
      exact ⟨recorded.probed.later _, recorded.timed.now answer,
        recorded.cleared.later id⟩
  | launchctl request => exact recorded.launchctl env request answer
  | connect sock =>
      have later := later id
      refine ⟨later.probed, later.timed, later.cleared.freed, ?_⟩
      rintro _ _ ⟨⟩
      exact .here run _
  | rename path target =>
      have later := later id
      cases answer with
      | error error => exact later
      | ok =>
          simp only [remember]
          split
          · split
            · exact { later with }
            · exact later
          · exact later
  | canonicalize path =>
      cases answer <;> exact { later id with }
  | writeFile path text =>
      cases answer <;> exact { later id with }
  | removeFile path =>
      obtain ⟨removed, same⟩ := remember_removeFile env known path answer
      rw [same]
      exact { later id with }
  | healthz addr perAttempt =>
      cases answer <;> exact { later id with }
  | readServerInfo path =>
      cases answer <;> exact { later id with }
  | spawn bin =>
      cases answer <;> exact { later id with }
  | eprintln line => cases line <;> exact { later id with }
  | metadata path => exact { later id with }
  | setMode | createDirAll | unlock | sleep | println => exact later id

end Recorded

theorem found_recorded (env : CliEnv) (run : Run) : Recorded run (found env run) := by
  induction run using List.reverseRecOn with
  | nil => exact ⟨⟨nofun, nofun, nofun, nofun, nofun⟩, ⟨nofun, nofun, nofun⟩, ⟨nofun, nofun⟩⟩
  | append_singleton run exchange recorded =>
      rw [found_next]
      exact recorded.next env exchange

/-! What a command does, in every run. -/

/-- A home with nothing else set. -/
def homeEnv : CliEnv where
  dataDir := none
  home := some "/h"
  ingestSock := none
  daemonBin := none
  agentLabel := none
  agentsDir := none
  exeDir := none
  path := []
  uid := 501
  pid := 7

def homeData : String :=
  join "/h" ".bowerbird"

def notFound : OsError :=
  ⟨OsError.enoent, "No such file or directory"⟩

def notThere : LaunchctlOutput :=
  ⟨false, some 113, "", "Could not find service"⟩

/-- `stop`, up to the SIGTERM. -/
def stopping : Run :=
  [⟨.launchctl (.print (target homeEnv)), .ok notThere⟩,
    ⟨.openFile (pidPath homeData), .ok ()⟩,
    refusedLock (pidPath homeData),
    readText (pidPath homeData) "7",
    pidAsked 7 (.ok ()),
    ⟨.println (.sendingSigterm 7), ()⟩]

/-- `stop`, with nothing to stop. -/
def stoppingNone : Run :=
  [⟨.launchctl (.print (target homeEnv)), .ok notThere⟩,
    ⟨.openFile (pidPath homeData), .error notFound⟩]

/-- What `start` reads of a property list that sets nothing. -/
def jobXml : String :=
  "<key>ProgramArguments</key><array><string>/d</string></array>"

/-- `start`, up to the request. -/
def starting : Run :=
  [⟨.pathExists (plistOf homeEnv), true⟩,
    readText (plistOf homeEnv) jobXml,
    ⟨.connect (join homeData "ingest.sock"), false⟩,
    ⟨.openFile (pidPath homeData), .error notFound⟩,
    ⟨.connect (join homeData "ingest.sock"), false⟩,
    readText (plistOf homeEnv) jobXml,
    ⟨.metadata "/d", some ⟨true, 0o755⟩⟩,
    ⟨.removeFile (serverJsonPath homeData), .ok ()⟩,
    ⟨.launchctl (.print (target homeEnv)), .ok notThere⟩]

/-- `uninstall --no-stop`, up to the removal. -/
def unregistering : Run :=
  [⟨.eprintln (.noStopNote (launchAgentLabel homeEnv)), ()⟩]

section Runs

variable {parseAddr : String → Except String String} {quoted : String → String}
variable {turns : Nat} {before after : Run}
variable {rest : Program Op Op.Answer (Except Stop Unit)}

/-- All that a command asks, it may ask by what it has found out before. -/
theorem asked_allowed {exchange : Exchange Op Op.Answer}
    (run : Asks (command.run parseAddr quoted env turns).run
      (before ++ exchange :: after) rest) :
    Allowed env parseAddr command (found env before) exchange.1 :=
  (command_sound parseAddr quoted env turns command).allowed run

/-- Since the last stop, nobody has been found to accept on the socket, and nobody to
hold the singleton of the directory. -/
def WayClear (env : CliEnv) (before : Run) (sock dir : String) : Prop :=
  SinceStop before ⟨.connect sock, false⟩ ∧
    ∃ probed, (probed = dir ∨ (found env before).job.canonical = some (probed, dir)) ∧
      Freed before (pidPath probed)

/-- launchd is asked to start the job only when nothing is known to stand in its
way. -/
theorem job_start_unopposed {request : Request}
    {answer : Except OsError LaunchctlOutput}
    (run : Asks (command.run parseAddr quoted env turns).run
      (before ++ ⟨.launchctl request, answer⟩ :: after) rest)
    (starts : request.startsJob = true) :
    request.Ours env ∧ ∃ registered dir,
      Unopposed env (found env before) registered dir ∧
        WayClear env before (registeredSock registered dir) dir := by
  obtain ⟨ours, unhindered⟩ := asked_allowed run
  obtain ⟨registered, dir, unopposed⟩ := unhindered starts
  have cleared := (found_recorded env before).cleared
  obtain ⟨probed, free, same⟩ := unopposed.free
  exact ⟨ours, registered, dir, unopposed, cleared.connected _ _ unopposed.down, probed,
    same, cleared.freed _ free⟩

theorem job_start_unopposed_starting :
    (Request.bootstrap (domain homeEnv) (plistOf homeEnv)).Ours homeEnv ∧
      ∃ registered dir, Unopposed homeEnv (found homeEnv starting) registered dir ∧
        WayClear homeEnv starting (registeredSock registered dir) dir := by
  have run : Asks (Command.start.run .ok id homeEnv 0).run
      (starting ++ ⟨.launchctl (.bootstrap (domain homeEnv) (plistOf homeEnv)),
        .ok notThere⟩ :: []) _ :=
    .asks (.asks (.asks (.asks (.asks (.asks (.asks (.asks (.asks (.asks (.here _))))))))))
  exact job_start_unopposed run rfl

/-- What has to be in a run for a signal to be sent: for SIGTERM, that the process
was named by the daemon's pid file, which it held the lock of, and that launchd cannot
bring it back unannounced; for SIGKILL, that it has had SIGTERM for ten seconds. -/
def Warranted (env : CliEnv) (command : Command) (before : Run) (pid : Int) :
    Signal → Prop
  | .term => 0 < pid ∧ MayStop env command (found env before) ∧
      ∃ dir text answer, LivesIn env command (found env before) dir ∧
        parsePid text = some pid ∧ answersAlive answer = true ∧
        Saw before [refusedLock (pidPath dir), readText (pidPath dir) text,
          pidAsked pid answer]
  | .kill => ∃ since time, since + 10000 ≤ time ∧
      Saw before [termSent pid, timeTold since, timeTold time]

theorem signal_warranted {pid : Int} {signal : Signal} {answer : Except OsError Unit}
    (run : Asks (command.run parseAddr quoted env turns).run
      (before ++ ⟨.kill pid (some signal), answer⟩ :: after) rest) :
    Warranted env command before pid signal := by
  have allowed := asked_allowed run
  have recorded := found_recorded env before
  cases signal with
  | term =>
      obtain ⟨⟨positive, dir, lives, held⟩, may⟩ := allowed
      obtain ⟨text, probed, parsed, alive, saw⟩ := recorded.probed.held _ pid held
      exact ⟨positive, may, dir, text, probed, lives, parsed, alive, saw⟩
  | kill =>
      obtain ⟨termed, _, since, time, started, told, late⟩ := allowed
      refine ⟨since, time, late, ?_⟩
      rcases recorded.timed.clock pid since time termed started told with same | saw
      · omega
      · exact saw

theorem signal_warranted_stopping : Warranted homeEnv .stop stopping 7 .term := by
  have run : Asks (Command.stop.run .ok id homeEnv 0).run
      (stopping ++ ⟨.kill 7 (some .term), .ok ()⟩ :: []) _ :=
    .asks (.asks (.asks (.asks (.asks (.asks (.asks (.here _)))))))
  exact signal_warranted run

/-- The property list stays as long as launchd may have the job. -/
theorem registration_removed {path : String} {answer : Except OsError Unit}
    (run : Asks (command.run parseAddr quoted env turns).run
      (before ++ ⟨.removeFile path, answer⟩ :: after) rest) :
    MayRemove env (found env before) path :=
  asked_allowed run

theorem registration_removed_unregistering :
    MayRemove homeEnv (found homeEnv unregistering) (plistOf homeEnv) := by
  have run : Asks ((Command.uninstall true).run .ok id homeEnv 0).run
      (unregistering ++ ⟨.removeFile (plistOf homeEnv), .ok ()⟩ :: []) _ :=
    .asks (.asks (.here _))
  exact registration_removed run

/-- A command that reports no error has done what it is for. -/
theorem done_achieved {run : Run}
    (done : Asks (command.run parseAddr quoted env turns).run run (.done (.ok ()))) :
    Achieved env parseAddr command (found env run) :=
  (command_sound parseAddr quoted env turns command).asks done

theorem done_achieved_stopping : Down homeEnv (found homeEnv (stoppingNone ++
    [⟨.println .notRunning, ()⟩])) := by
  have done : Asks (Command.stop.run .ok id homeEnv 0).run
      (stoppingNone ++ [⟨.println .notRunning, ()⟩]) (.done (.ok ())) :=
    .asks (.asks (.asks (.here _)))
  exact done_achieved done

end Runs

end Bowerbird.Commands.Lifecycle
