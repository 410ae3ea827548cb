import Bowerbird.Commands.Findings

namespace Bowerbird.Commands.Lifecycle

open Foundation Program LaunchAgent

/-! No command does anything that it may not do by what it has found out, whatever
the answers are: one lemma for each of its parts. -/

variable {env : CliEnv} {parseAddr : String → Except String String}
variable {command : Command} {known : Known} {failed : Known → Stop → Prop}

/-! The singleton. -/

/-- The probe ended on this state. -/
def Shows (probe : Probe) (path : String) : SingletonState → Prop
  | .free => probe.free = some path ∧ probe.held = none
  | .held pid => 0 < pid ∧ probe.held = some (path, pid) ∧ probe.taken = some path
  | .heldUnknownPid => probe.held = none ∧ probe.taken = some path

theorem Shows.unmatched {probe : Probe} {path : String} {state : SingletonState}
    {pid : Int} (shows : Shows probe path state) (other : state ≠ .held pid) :
    probe.held ≠ some (path, pid) := by
  intro same
  cases state with
  | free => exact absurd (shows.2.symm.trans same) nofun
  | heldUnknownPid => exact absurd (shows.1.symm.trans same) nofun
  | held holder =>
      obtain ⟨_, rfl⟩ := Prod.mk.inj (Option.some.inj (shows.2.1.symm.trans same))
      exact other rfl

theorem Shows.taken {probe : Probe} {path : String} {state : SingletonState}
    (shows : Shows probe path state) (busy : state ≠ .free) :
    probe.taken = some path := by
  cases state with
  | free => exact absurd rfl busy
  | heldUnknownPid => exact shows.2
  | held pid => exact shows.2.2

/-- A probe is over, and nothing else is known than what it has shown. -/
def Examines (before : Known) (path : String) (later : Known) (state : SingletonState) :
    Prop :=
  ∃ probe, later = { before with probe := probe } ∧ probe.opened = none ∧
    Shows probe path state

theorem pidAlive_keeps (pid : Int) :
    Keeps (watch env parseAddr command)
      (fun later alive => later = { known with probe := known.probe.ask pid alive })
      failed known (pidAlive pid) :=
  .consult trivial fun _ => .pure rfl

theorem parsePid_pos {text : String} {pid : Int} (named : parsePid text = some pid) :
    0 < pid :=
  of_decide_eq_true (Option.filter_eq_some_iff.mp named).2

theorem remember_readFile {path : String} (opened : known.probe.opened = some path)
    (read : Except OsError String) :
    remember env known (.readFile path) read =
      { known with probe := known.probe.read read } :=
  if_pos opened

theorem readPid_keeps {path : String} (opened : known.probe.opened = some path) :
    Keeps (watch env parseAddr command)
      (fun later named =>
        later = { known with probe := { known.probe with opened := none, named } } ∧
        ∀ pid, named = some pid → 0 < pid)
      (fun later _ => later =
        { known with probe := { known.probe with opened := none, named := none } })
      known (readPid path) := by
  refine .consultAs (remember_readFile opened) trivial fun read => ?_
  cases read with
  | ok text => exact .pure ⟨rfl, fun _ => parsePid_pos⟩
  | error error =>
      dsimp only
      split
      · exact .pure ⟨rfl, nofun⟩
      · exact .throw rfl

/-- A probe that was refused the lock of the pid file that it has open. -/
structure Refused (probe : Probe) (path : String) : Prop where
  opened : probe.opened = some path
  refused : probe.refused = some path
  held : probe.held = none
  taken : probe.taken = some path

theorem holderOf_keeps {path : String} (refused : Refused known.probe path) :
    Keeps (watch env parseAddr command) (Examines known path)
      failed known (holderOf path) := by
  refine .attempted (readPid_keeps refused.opened) ?_ ?_
  · rintro _ named ⟨rfl, positive⟩
    cases named with
    | none => exact .pure ⟨_, rfl, rfl, refused.held, refused.taken⟩
    | some pid =>
        refine .andThen (pidAlive_keeps pid) ?_
        rintro _ alive rfl
        cases alive with
        | true =>
            refine .pure ⟨_, rfl, rfl, positive pid rfl, ?_, refused.taken⟩
            simp only [Probe.ask, refused.refused, and_self, if_true, Option.map_some]
        | false =>
            refine .pure ⟨_, rfl, rfl, ?_, refused.taken⟩
            simp only [Probe.ask, Bool.false_eq_true, and_false, if_false]
  · rintro _ _ rfl
    exact .pure ⟨_, rfl, rfl, refused.held, refused.taken⟩

theorem Probe.lock_refused {probe : Probe} {path : String}
    (opened : probe.opened = some path) :
    probe.lock path false = { probe with refused := some path, taken := some path } :=
  if_pos opened

theorem refused_begin (probe : Probe) (path : String) :
    Refused ((probe.begin path (.ok ())).lock path false) path := by
  rw [Probe.lock_refused rfl]
  exact ⟨rfl, rfl, rfl, rfl⟩

theorem singletonState_keeps (dir : String) :
    Keeps (watch env parseAddr command) (Examines known (pidPath dir))
      failed known (singletonState dir) := by
  refine .consult trivial fun opened => ?_
  cases opened with
  | error error =>
      dsimp only
      split
      · rename_i absent
        exact .pure ⟨_, rfl, rfl, if_pos absent, rfl⟩
      · rename_i broken
        exact .pure ⟨_, rfl, rfl, rfl, if_neg broken⟩
  | ok =>
      refine .consult trivial fun acquired => ?_
      cases acquired with
      | true => exact .consult trivial fun _ => .pure ⟨_, rfl, rfl, rfl, rfl⟩
      | false =>
          refine .weaken ?_ (holderOf_keeps (refused_begin known.probe (pidPath dir)))
          rintro _ state ⟨probe, rfl, closed, shows⟩
          exact ⟨probe, rfl, closed, shows⟩

theorem daemonIsUp_keeps (sock : String) :
    Keeps (watch env parseAddr command)
      (fun later up => later = { known with socket := some (sock, up) })
      failed known (daemonIsUp sock) :=
  .last trivial fun _ => rfl

/-! Stopping by the pid file. -/

/-- Nothing but what a stop is about has changed. -/
def Handled (before later : Known) : Prop :=
  ∃ probe sent socket,
    later = { before with probe := probe, sent := sent, socket := socket }

theorem Handled.refl (known : Known) : Handled known known :=
  ⟨_, _, _, rfl⟩

theorem Handled.change {before : Known} (handled : Handled before known)
    (probe : Probe) (sent : Sent) (socket : Option (String × Bool)) :
    Handled before { known with probe := probe, sent := sent, socket := socket } := by
  obtain ⟨_, _, _, rfl⟩ := handled
  exact ⟨probe, sent, socket, rfl⟩

theorem Handled.livesIn {before : Known} {dir : String}
    (handled : Handled before known) (lives : LivesIn env command before dir) :
    LivesIn env command known dir := by
  obtain ⟨_, _, _, rfl⟩ := handled
  exact lives

/-- A stop failed, and the daemon was last found to run. -/
def Stuck (before : Known) (path : String) (later : Known) : Prop :=
  Handled before later ∧ later.probe.taken = some path

/-- The process that holds the pid file has just had SIGTERM. -/
structure Termed (known : Known) (path : String) (pid : Int) : Prop where
  termed : known.sent.termed = some pid
  holding : known.sent.holding = some path
  killed : known.sent.killed = none
  since : known.sent.since = none
  taken : known.probe.taken = some path

/-- What a SIGTERM has come to. -/
def Signalled (known : Known) (path : String) : Option Int → Prop
  | none => known.probe.free = some path
  | some pid => Termed known path pid

theorem Probe.holding_held {probe : Probe} {path : String} {pid : Int}
    (held : probe.held = some (path, pid)) : probe.holding pid = some path := by
  simp only [Probe.holding, held, if_true]

section Signal

variable {before : Known} {dir : String}

theorem sendSigterm_keeps {pid : Int} {gone : Action (Option Int)}
    (handled : Handled before known) (lives : LivesIn env command known dir)
    (shows : Shows known.probe (pidPath dir) (.held pid))
    (may : MayStop env command known)
    (goneKeeps : Keeps (watch env parseAddr command)
      (fun later result => Handled before later ∧ Signalled later (pidPath dir) result)
      (fun later _ => Stuck before (pidPath dir) later) known gone) :
    Keeps (watch env parseAddr command)
      (fun later result => Handled before later ∧ Signalled later (pidPath dir) result)
      (fun later _ => Stuck before (pidPath dir) later) known (sendSigterm pid gone) := by
  have aimed : Aimed env command known pid := ⟨shows.1, dir, lives, shows.2.1⟩
  refine .consult aimed fun _ => .consult ⟨aimed, may⟩ fun answer => ?_
  cases answer with
  | ok =>
      exact .pure ⟨handled.change _ _ _, rfl, Probe.holding_held shows.2.1, rfl, rfl,
        shows.2.2⟩
  | error error =>
      dsimp only
      split
      · exact goneKeeps
      · exact .throw ⟨handled, shows.2.2⟩

theorem signalHolder_keeps {pid : Int} (handled : Handled before known)
    (lives : LivesIn env command known dir)
    (shows : Shows known.probe (pidPath dir) (.held pid))
    (may : MayStop env command known) :
    Keeps (watch env parseAddr command)
      (fun later result => Handled before later ∧ Signalled later (pidPath dir) result)
      (fun later _ => Stuck before (pidPath dir) later) known (signalHolder dir pid) := by
  refine sendSigterm_keeps handled lives shows may ?_
  refine .andThen (singletonState_keeps dir) ?_
  rintro _ state ⟨probe, rfl, -, shows⟩
  have handled := handled.change probe known.sent known.socket
  cases state with
  | free => exact .pure ⟨handled, shows.1⟩
  | heldUnknownPid => exact .throw ⟨handled, shows.2⟩
  | held next =>
      refine sendSigterm_keeps handled lives shows may ?_
      refine .andThen (singletonState_keeps dir) ?_
      rintro _ state ⟨probe, rfl, -, shows⟩
      have handled := handled.change probe known.sent known.socket
      cases state with
      | free => exact .pure ⟨handled, shows.1⟩
      | heldUnknownPid => exact .throw ⟨handled, shows.2⟩
      | held _ => exact .throw ⟨handled, shows.2.2⟩

end Signal

/-- The process has had SIGTERM, and the time has been taken. -/
structure Awaiting (before known : Known) (path : String) (pid : Int)
    (killed : Option Int) (since : Nat) : Prop where
  handled : Handled before known
  taken : known.probe.taken = some path
  termed : known.sent.termed = some pid
  holding : known.sent.holding = some path
  killed : known.sent.killed = killed
  since : known.sent.since = some since

namespace Awaiting

variable {before : Known} {path : String} {pid : Int} {killed : Option Int}
variable {since : Nat}

theorem ask (awaiting : Awaiting before known path pid killed since) (alive : Bool) :
    Awaiting before { known with probe := known.probe.ask pid alive } path pid killed
      since :=
  { awaiting with handled := awaiting.handled.change _ _ _ }

theorem now (env : CliEnv) (awaiting : Awaiting before known path pid killed since)
    (time : Nat) :
    Awaiting before (remember env known .now time) path pid killed since := by
  refine { awaiting with handled := awaiting.handled.change _ _ _, since := ?_ }
  simp only [remember, awaiting.since, Option.some_or]

theorem stuck (awaiting : Awaiting before known path pid killed since) :
    Stuck before path known :=
  ⟨awaiting.handled, awaiting.taken⟩

theorem kill (awaiting : Awaiting before known path pid killed since)
    (answer : Except OsError Unit) :
    Awaiting before (known.signal pid .kill answer) path pid (some pid) since := by
  have handled := awaiting.handled
  cases answer with
  | ok | error error =>
      exact { awaiting with handled := handled.change _ _ _, killed := rfl }

theorem gone (awaiting : Awaiting before known path pid killed since) :
    Gone { known with probe := known.probe.ask pid false } path pid :=
  ⟨awaiting.termed, awaiting.holding, rfl⟩

end Awaiting

section Wait

variable {before : Known} {path : String} {pid : Int} {killed : Option Int}
variable {since : Nat}

theorem reap_keeps (turns deadline : Nat)
    (awaiting : Awaiting before known path pid killed since) :
    Keeps (watch env parseAddr command)
      (fun later _ => Awaiting before later path pid killed since)
      (fun later _ => Stuck before path later) known (reap turns pid deadline) := by
  induction turns generalizing known with
  | zero => exact .throw awaiting.stuck
  | succ turns induction =>
      refine .andThen (pidAlive_keeps pid) ?_
      rintro _ alive rfl
      cases alive with
      | false => exact .pure (awaiting.ask false)
      | true =>
          refine .consult trivial fun time => ?_
          have awaiting := (awaiting.ask true).now env time
          split
          · exact .consult trivial fun _ => induction awaiting
          · exact .pure awaiting

theorem escalate_keeps (turns : Nat)
    (awaiting : Awaiting before known path pid killed since)
    (overdue : Overdue known pid) :
    Keeps (watch env parseAddr command)
      (fun later _ => Awaiting before later path pid (some pid) since)
      (fun later _ => Stuck before path later) known (escalate turns pid) := by
  refine .consult ⟨pid, overdue⟩ fun _ => .consult overdue fun answer => ?_
  refine .consult trivial fun time => ?_
  exact reap_keeps turns _ ((awaiting.kill answer).now env time)

theorem drain_keeps (turns : Nat)
    (awaiting : Awaiting before known path pid none since) :
    Keeps (watch env parseAddr command)
      (fun later escalated => Awaiting before later path pid
        (if escalated then some pid else none) since)
      (fun later _ => Stuck before path later) known
      (drain turns pid (since + 10000)) := by
  induction turns generalizing known with
  | zero => exact .throw awaiting.stuck
  | succ turns induction =>
      refine .andThen (pidAlive_keeps pid) ?_
      rintro _ alive rfl
      cases alive with
      | false => exact .pure (awaiting.ask false)
      | true =>
          refine .consult trivial fun time => ?_
          have awaiting := (awaiting.ask true).now env time
          split
          · rename_i late
            have overdue : Overdue (remember env
                { known with probe := known.probe.ask pid true } .now time) pid :=
              ⟨awaiting.termed, rfl, since, time, awaiting.since, rfl, late⟩
            refine .andThen (escalate_keeps turns awaiting overdue) ?_
            exact fun _ _ awaiting => .pure awaiting
          · exact .consult trivial fun _ => induction awaiting

theorem awaitExit_keeps (turns : Nat) (handled : Handled before known)
    (termed : Termed known path pid) :
    Keeps (watch env parseAddr command)
      (fun later outcome => Handled before later ∧ Ended later path outcome)
      (fun later _ => Stuck before path later) known (awaitExit turns pid) := by
  refine .consult trivial fun time => ?_
  have awaiting : Awaiting before (remember env known .now time) path pid none time := by
    refine ⟨handled.change _ _ _, termed.taken, termed.termed, termed.holding,
      termed.killed, ?_⟩
    simp only [remember, termed.since, Option.none_or]
  refine .andThen (drain_keeps turns awaiting) ?_
  intro later escalated awaiting
  refine .andThen (pidAlive_keeps pid) ?_
  rintro _ alive rfl
  cases alive with
  | true => exact .throw (awaiting.ask true).stuck
  | false =>
      have handled := (awaiting.ask false).handled
      cases escalated with
      | true => exact .pure ⟨handled, pid, awaiting.gone, awaiting.killed⟩
      | false => exact .pure ⟨handled, pid, awaiting.gone, awaiting.killed⟩

end Wait

theorem stopDaemonViaPidFile_keeps (turns : Nat) {dir : String}
    (lives : LivesIn env command known dir) (may : MayStop env command known) :
    Keeps (watch env parseAddr command)
      (fun later outcome => Handled known later ∧ Ended later (pidPath dir) outcome)
      (fun later _ => Stuck known (pidPath dir) later) known
      (stopDaemonViaPidFile turns dir) := by
  refine .andThen (singletonState_keeps dir) ?_
  rintro _ state ⟨probe, rfl, -, shows⟩
  have handled := (Handled.refl known).change probe known.sent known.socket
  cases state with
  | free => exact .pure ⟨handled, shows.1⟩
  | heldUnknownPid => exact .throw ⟨handled, shows.2⟩
  | held pid =>
      refine .andThen (signalHolder_keeps handled lives shows may) ?_
      rintro later result ⟨handled, signalled⟩
      cases result with
      | none => exact .pure ⟨handled, signalled⟩
      | some pid => exact awaitExit_keeps turns handled signalled

/-! launchd. -/

/-- launchd was asked for the job, and nothing is known of it by that. -/
def Unverified (before later : Known) : Prop :=
  later = { before with launchd := before.launchd.unverified }

theorem runLaunchctl_keeps {request : Request} (ours : request.Ours env)
    (starts : request.startsJob = true → ∃ registered dir,
      Unopposed env known registered dir)
    (fails : ∀ error stop, failed (known.answered request (.error error)) stop) :
    Keeps (watch env parseAddr command)
      (fun later output => later = known.answered request (.ok output))
      failed known (runLaunchctl request) := by
  refine .consultAs (fun answer => if_pos ours) ⟨ours, starts⟩ fun answer => ?_
  cases answer with
  | ok output => exact .pure rfl
  | error error => exact .throw (fails error _)

theorem Launchd.print_success (launchd : Launchd) {output : LaunchctlOutput}
    (success : output.success = true) :
    launchd.print (.ok output) =
      { launchd with
        asked := true
        loaded := some true
        running := some (parseLaunchctlPrintPid output.stdout) } := by
  rw [Launchd.print, if_pos success]

theorem Launchd.print_absent (launchd : Launchd) {output : LaunchctlOutput}
    (success : ¬ output.success = true) (absent : output.absent = true) :
    launchd.print (.ok output) =
      { launchd with asked := true, loaded := some false, running := some none } := by
  rw [Launchd.print, if_neg success, if_pos absent]

theorem Launchd.print_ordered (launchd : Launchd)
    (answer : Except OsError LaunchctlOutput) :
    (launchd.print answer).ordered = launchd.ordered := by
  cases answer with
  | error error => rfl
  | ok output =>
      simp only [Launchd.print]
      split
      · rfl
      · split <;> rfl

theorem unverified_print {output : LaunchctlOutput}
    (success : ¬ output.success = true) (absent : ¬ output.absent = true) :
    Unverified known { known with launchd := known.launchd.print (.ok output) } := by
  rw [Unverified, Launchd.print, if_neg success, if_neg absent]

/-- `print` of the job. -/
theorem printJob_keeps :
    Keeps (watch env parseAddr command)
      (fun later output =>
        later = { known with launchd := known.launchd.print (.ok output) })
      (fun later _ => Unverified known later) known
      (runLaunchctl (.print (target env))) :=
  runLaunchctl_keeps rfl nofun fun _ _ => rfl

theorem agentLoaded_keeps :
    Keeps (watch env parseAddr command)
      (fun later loaded => ∃ launchd, later = { known with launchd := launchd } ∧
        launchd.loaded = some loaded ∧ launchd.ordered = known.launchd.ordered)
      (fun later _ => Unverified known later) known (agentLoaded env) := by
  refine .andThen printJob_keeps ?_
  rintro _ output rfl
  split
  · rename_i success
    have same := Launchd.print_success known.launchd success
    exact .pure ⟨_, rfl, congrArg Launchd.loaded same, Launchd.print_ordered _ _⟩
  · split
    · rename_i success absent
      have same := Launchd.print_absent known.launchd success absent
      exact .pure ⟨_, rfl, congrArg Launchd.loaded same, Launchd.print_ordered _ _⟩
    · rename_i success absent
      exact .throw (unverified_print success absent)

theorem launchAgentRunningPid_keeps :
    Keeps (watch env parseAddr command)
      (fun later pid => ∃ launchd, later = { known with launchd := launchd } ∧
        launchd.running = some pid ∧ launchd.loaded.isSome = true)
      (fun later _ => Unverified known later) known (launchAgentRunningPid env) := by
  refine .andThen printJob_keeps ?_
  rintro _ output rfl
  split
  · rename_i success
    have same := Launchd.print_success known.launchd success
    refine .pure ⟨_, rfl, congrArg Launchd.running same, ?_⟩
    exact congrArg (·.loaded.isSome) same
  · split
    · rename_i success absent
      have same := Launchd.print_absent known.launchd success absent
      refine .pure ⟨_, rfl, congrArg Launchd.running same, ?_⟩
      exact congrArg (·.loaded.isSome) same
    · rename_i success absent
      exact .throw (unverified_print success absent)

def LoadState.answer : LoadState → Option Bool
  | loaded => some true
  | notLoaded => some false
  | unknown => none

theorem launchAgentLoadState_keeps :
    Keeps (watch env parseAddr command)
      (fun later state => ∃ launchd, later = { known with launchd := launchd } ∧
        launchd.loaded = state.answer ∧ (state = .unknown → launchd.asked = true))
      failed known (launchAgentLoadState env) := by
  refine .attempted agentLoaded_keeps ?_ ?_
  · rintro _ loaded ⟨launchd, rfl, same, -⟩
    cases loaded with
    | true => exact .pure ⟨launchd, rfl, same, nofun⟩
    | false => exact .pure ⟨launchd, rfl, same, nofun⟩
  · rintro _ _ rfl
    exact .pure ⟨_, rfl, rfl, fun _ => rfl⟩

theorem Launchd.request_means (launchd : Launchd) {means : LaunchctlOutput → Bool}
    {output : LaunchctlOutput} (loaded : Bool)
    (meant : (output.success || means output) = true) :
    (launchd.request means loaded (.ok output)).loaded = some loaded := by
  rw [Launchd.request, if_pos meant]

section Start

variable {registered : List (String × String)} {dir : String}

theorem Unopposed.launchd (unopposed : Unopposed env known registered dir)
    (launchd : Launchd) :
    Unopposed env { known with launchd := launchd } registered dir :=
  { unopposed with }

/-- The job is loaded. -/
def Loaded (before later : Known) : Prop :=
  ∃ launchd, later = { before with launchd := launchd } ∧ launchd.loaded = some true

theorem loadLegacy_keeps (modern : LaunchctlOutput)
    (unopposed : Unopposed env known registered dir) :
    Keeps (watch env parseAddr command) (fun later _ => Loaded known later)
      (fun _ _ => True) known (loadLegacy env (plistOf env) modern) := by
  refine .andThen (runLaunchctl_keeps rfl (fun _ => ⟨_, _, unopposed⟩)
    fun _ _ => trivial) ?_
  rintro _ legacy rfl
  split
  · rename_i meant
    exact .pure ⟨_, rfl, Launchd.request_means _ true meant⟩
  · refine .andThen agentLoaded_keeps.anyFailure ?_
    rintro _ loaded ⟨launchd, rfl, same, -⟩
    cases loaded with
    | true => exact .pure ⟨launchd, rfl, same⟩
    | false => exact .throw trivial

theorem bootstrapLaunchAgent_keeps (unopposed : Unopposed env known registered dir) :
    Keeps (watch env parseAddr command) (fun later _ => Loaded known later)
      (fun _ _ => True) known (bootstrapLaunchAgent env (plistOf env)) := by
  refine .andThen (runLaunchctl_keeps ⟨rfl, rfl⟩ (fun _ => ⟨_, _, unopposed⟩)
    fun _ _ => trivial) ?_
  rintro _ modern rfl
  split
  · rename_i meant
    exact .pure ⟨_, rfl, Launchd.request_means _ true meant⟩
  · refine .attempted agentLoaded_keeps ?_ ?_
    · rintro _ loaded ⟨launchd, rfl, same, -⟩
      cases loaded with
      | true => exact .pure ⟨launchd, rfl, same⟩
      | false => exact loadLegacy_keeps modern (unopposed.launchd _)
    · rintro _ _ rfl
      exact loadLegacy_keeps modern (unopposed.launchd _)

theorem kickstartLaunchAgent_keeps
    (unopposed : Unopposed env known registered dir) :
    Keeps (watch env parseAddr command) (fun later _ => Loaded known later)
      (fun _ _ => True) known (kickstartLaunchAgent env) := by
  refine .andThen (runLaunchctl_keeps rfl (fun _ => ⟨_, _, unopposed⟩)
    fun _ _ => trivial) ?_
  rintro _ output rfl
  split
  · rename_i success
    refine .pure ⟨_, rfl, Launchd.request_means _ true ?_⟩
    rw [success, Bool.true_or]
  · exact .throw trivial

end Start

/-- The job is out of launchd, and nothing is known any more of who accepts. -/
def Unloaded (before later : Known) : Prop :=
  ∃ launchd, later = { before.stopped with launchd := launchd } ∧
    launchd.loaded = some false ∧ launchd.ordered = true

/-- The job was ordered out, and is not known to be, unless it was before. -/
def StillIn (before later : Known) : Prop :=
  later.launchd.ordered = true ∧
    (before.launchd.loaded ≠ some false → later.launchd.loaded ≠ some false)

theorem unloadLegacy_keeps (modern : LaunchctlOutput) :
    Keeps (watch env parseAddr command) (fun later _ => Unloaded known later)
      (fun later _ => StillIn known later) known
      (unloadLegacy env (plistOf env) modern) := by
  refine .andThen (runLaunchctl_keeps rfl nofun fun _ _ => ⟨rfl, id⟩) ?_
  rintro _ legacy rfl
  split
  · rename_i meant
    exact .pure ⟨_, rfl, Launchd.request_means _ false meant, rfl⟩
  · refine .andThen (agentLoaded_keeps.mono (fun _ _ => id) ?_) ?_
    · rintro _ _ rfl
      exact ⟨rfl, fun _ => nofun⟩
    · rintro _ loaded ⟨launchd, rfl, same, ordered⟩
      cases loaded with
      | true =>
          exact .throw ⟨ordered, fun _ out => absurd (same.symm.trans out) nofun⟩
      | false => exact .pure ⟨launchd, rfl, same, ordered⟩

theorem bootoutLaunchAgent_keeps :
    Keeps (watch env parseAddr command) (fun later _ => Unloaded known later)
      (fun later _ => StillIn known later) known
      (bootoutLaunchAgent env (plistOf env)) := by
  refine .andThen (runLaunchctl_keeps rfl nofun fun _ _ => ⟨rfl, id⟩) ?_
  rintro _ modern rfl
  split
  · rename_i meant
    exact .pure ⟨_, rfl, Launchd.request_means _ false meant, rfl⟩
  · refine .attempted agentLoaded_keeps ?_ ?_
    · rintro _ loaded ⟨launchd, rfl, same, ordered⟩
      cases loaded with
      | true =>
          refine (unloadLegacy_keeps modern).mono (fun _ _ => id) ?_
          rintro _ _ ⟨ordered, unsure⟩
          exact ⟨ordered, fun _ => unsure fun out => absurd (same.symm.trans out) nofun⟩
      | false => exact .pure ⟨launchd, rfl, same, ordered⟩
    · rintro _ _ rfl
      refine (unloadLegacy_keeps modern).mono (fun _ _ => id) ?_
      rintro _ _ ⟨ordered, unsure⟩
      exact ⟨ordered, fun _ => unsure nofun⟩

/-! What a command is for. -/

variable (env parseAddr) in
/-- The daemon accepts, or has answered. -/
def Up (known : Known) : Prop :=
  Accepting env .start known ∨ ∃ addr, Answering env .start known parseAddr addr

/-- Nobody holds the daemon's pid file, or the one that held it is gone. -/
def Down (env : CliEnv) (known : Known) : Prop :=
  ∃ dir outcome, resolveBowerbirdDir env = .ok dir ∧ Ended known (pidPath dir) outcome

/-- The property list is written, and launchd has the job if it was to start it. -/
def Registered (env : CliEnv) (noStart : Bool) (known : Known) : Prop :=
  known.job.written = some (plistOf env) ∧
    (noStart = false → known.launchd.loaded = some true)

def Unregistered (env : CliEnv) (known : Known) : Prop :=
  known.job.removed = some (plistOf env)

variable (env parseAddr) in
def Achieved : Command → Known → Prop
  | .start => Up env parseAddr
  | .stop => Down env
  | .install noStart => Registered env noStart
  | .uninstall _ => Unregistered env

variable (env parseAddr command) in
/-- The action does only what it may do, and where it succeeds `post` is known. -/
def Sound {Value : Type} (post : Known → Prop) (known : Known)
    (action : Action Value) : Prop :=
  Keeps (watch env parseAddr command) (fun later _ => post later) (fun _ _ => True)
    known action

theorem ofExcept_keeps {Value : Type} {result : Except String Value} :
    Keeps (watch env parseAddr command)
      (fun later value => later = known ∧ result = .ok value)
      (fun _ _ => True) known (ofExcept result) := by
  cases result with
  | ok value => exact .pure ⟨rfl, rfl⟩
  | error error => exact .throw trivial

theorem within_keeps {Value : Type} {post : Known → Value → Prop} {text : String}
    {action : Action Value}
    (keeps : Keeps (watch env parseAddr command) post (fun _ _ => True) known action) :
    Keeps (watch env parseAddr command) post (fun _ _ => True) known (within text action) :=
  .mapFailure (fun _ _ _ => trivial) keeps

theorem orFail_keeps {text : String} {result : Except OsError Unit} :
    Keeps (watch env parseAddr command)
      (fun later _ => later = known ∧ result = .ok ())
      (fun _ _ => True) known (orFail text result) := by
  cases result with
  | ok => exact .pure ⟨rfl, rfl⟩
  | error error => exact .throw trivial

theorem plistPath_eq {plist : String} (located : plistPath env = .ok plist) :
    plist = plistOf env := by
  rw [plistOf, located]
  rfl

/-! No other file is taken for the property list. -/

theorem getLast_append {front back : String} {last : Char}
    (ends : back.toList.getLast? = some last) :
    (front ++ back).toList.getLast? = some last := by
  rw [String.toList_append, List.getLast?_append, ends]
  rfl

theorem getLast_join {name : String} {last : Char}
    (ends : name.toList.getLast? = some last) (directory : String) :
    (join directory name).toList.getLast? = some last := by
  unfold join
  split
  · exact ends
  · split <;> exact getLast_append ends

theorem getLast_plistOf (env : CliEnv) {last : Char} (other : 't' ≠ last) :
    (plistOf env).toList.getLast? ≠ some last := by
  have ends : (launchAgentLabel env ++ ".plist").toList.getLast? = some 't' :=
    getLast_append rfl
  unfold plistOf plistPath
  cases launchAgentsDir env with
  | error error =>
      intro same
      cases same
  | ok dir =>
      have ends : (joinAny dir (launchAgentLabel env ++ ".plist")).toList.getLast? =
          some 't' := by
        unfold joinAny
        split
        · exact ends
        · exact getLast_join ends dir
      intro same
      exact other (Option.some_inj.mp (ends.symm.trans same))

theorem serverJsonPath_ne (env : CliEnv) (dir : String) :
    serverJsonPath dir ≠ plistOf env := by
  intro same
  apply getLast_plistOf env (by decide : 't' ≠ 'n')
  rw [← same]
  exact getLast_join rfl dir

theorem uniqueTmpPath_ne (env : CliEnv) (count : Nat) (plist : String) :
    uniqueTmpPath env count plist ≠ plistOf env := by
  intro same
  apply getLast_plistOf env (by decide : 't' ≠ 'p')
  rw [← same]
  exact getLast_join (getLast_append rfl) _

theorem pidPath_ne (env : CliEnv) (dir : String) : pidPath dir ≠ plistOf env := by
  intro same
  apply getLast_plistOf env (by decide : 't' ≠ 'd')
  rw [← same]
  exact getLast_join rfl dir

/-! Waiting until it answers. -/

theorem waitForServerJson_keeps (turns deadline : Nat) (dir : String) {job : Job}
    (same : known.job = job) :
    Keeps (watch env parseAddr command)
      (fun later info => later.job = job ∧ ∀ bindAddr, info = some bindAddr →
        later.server = some (serverJsonPath dir, bindAddr))
      (fun _ _ => True) known (waitForServerJson turns dir deadline) := by
  induction turns generalizing known with
  | zero => exact .throw trivial
  | succ turns induction =>
      refine .consult trivial fun time => ?_
      split
      · refine .consult trivial fun info => ?_
        cases info with
        | some bindAddr =>
            refine .pure ⟨same, ?_⟩
            rintro _ ⟨⟩
            rfl
        | none =>
            exact .consult trivial fun _ => induction same
      · exact .pure ⟨same, nofun⟩

theorem pollHealthz_sound (turns deadline : Nat) (who : String) {dir bindAddr addr : String}
    (lives : LivesIn env .start known dir)
    (server : known.server = some (serverJsonPath dir, bindAddr))
    (parsed : parseAddr bindAddr = .ok addr) :
    Sound env parseAddr .start (Up env parseAddr) known
      (pollHealthz turns who addr deadline) := by
  induction turns generalizing known with
  | zero => exact .throw trivial
  | succ turns induction =>
      refine .consult trivial fun time => ?_
      split
      · refine .consult trivial fun outcome => ?_
        cases outcome with
        | ok =>
            have answering : Answering env .start
                { remember env known .now time with healthy := some addr } parseAddr
                addr :=
              ⟨rfl, dir, bindAddr, lives, server, parsed⟩
            exact .last answering fun _ => .inr ⟨addr, answering⟩
        | unhealthy | unreachable =>
            exact .consult trivial fun _ => induction lives server
      · exact .throw trivial

section Start

variable {quoted : String → String}
variable {registered : List (String × String)} {dir sock : String}

theorem waitForReady_sound (turns : Nat) (who : String)
    (lives : LivesIn env .start known dir) :
    Sound env parseAddr .start (Up env parseAddr) known
      (waitForReady parseAddr quoted turns dir who) := by
  refine .consult trivial fun time => ?_
  refine .andThen (waitForServerJson_keeps turns _ dir rfl) ?_
  rintro later info ⟨job, server⟩
  cases info with
  | none => exact .throw trivial
  | some bindAddr =>
      have lives : LivesIn env .start later dir := by
        rw [LivesIn, job]
        exact lives
      dsimp only
      split
      · exact .throw trivial
      · rename_i parsed
        exact pollHealthz_sound turns _ who lives (server bindAddr rfl) parsed

theorem remember_readOther {path : String} (closed : known.probe.opened = none)
    (other : path ≠ plistOf env) (read : Except OsError String) :
    remember env known (.readFile path) read =
      { known with file := some (path, read.toOption.bind parsePid) } := by
  simp only [remember, closed, reduceCtorEq, if_false, other]

theorem readPid_keepsFile {path : String} (closed : known.probe.opened = none)
    (other : path ≠ plistOf env) :
    Keeps (watch env parseAddr command)
      (fun later pid => later = { known with file := some (path, pid) })
      (fun later _ => later = { known with file := some (path, none) })
      known (readPid path) := by
  refine .consultAs (remember_readOther closed other) trivial fun read => ?_
  cases read with
  | ok text => exact .pure rfl
  | error error =>
      dsimp only
      split
      · exact .pure rfl
      · exact .throw rfl

theorem startDaemonDetached_keeps (dir : String) :
    Keeps (watch env parseAddr command)
      (fun later outcome => match outcome with
        | .alreadyRunning =>
            later = { known with socket := some (join dir "ingest.sock", true) }
        | .spawned pid => later.job = known.job ∧ later.spawned = some pid)
      (fun _ _ => True) known (startDaemonDetached env dir) := by
  refine .andThen (daemonIsUp_keeps _) ?_
  rintro _ up rfl
  cases up with
  | true => exact .pure rfl
  | false =>
      refine .consult trivial fun spawned => ?_
      cases spawned with
      | ok pid => exact .pure ⟨rfl, rfl⟩
      | error error => exact .throw trivial

theorem startDetached_sound (turns : Nat) (closed : known.probe.opened = none)
    (absent : known.job.there = some false)
    (located : resolveBowerbirdDir env = .ok dir) :
    Sound env parseAddr .start (Up env parseAddr) known
      (startDetached parseAddr quoted env turns dir) := by
  have daemonAt := DaemonAt.unregistered absent located
  refine .andThen (startDaemonDetached_keeps dir) ?_
  intro later outcome started
  cases outcome with
  | spawned pid =>
      obtain ⟨job, spawned⟩ := started
      have lives : LivesIn env .start later dir := by
        rw [LivesIn, job]
        exact ⟨_, daemonAt⟩
      exact .consult spawned fun _ => waitForReady_sound turns _ lives
  | alreadyRunning =>
      obtain rfl := started
      have accepting (file : Option (String × Option Int)) : Accepting env .start
          { known with socket := some (join dir "ingest.sock", true), file := file } :=
        ⟨_, ⟨dir, daemonAt⟩, rfl⟩
      refine .attempted (readPid_keepsFile closed (pidPath_ne env dir)) ?_ ?_
      · rintro _ pid rfl
        exact .last ⟨dir, _, daemonAt, rfl, rfl⟩ fun _ => .inl (accepting _)
      · rintro _ _ rfl
        exact .last ⟨dir, _, daemonAt, rfl, rfl⟩ fun _ => .inl (accepting _)

/-! `start` over a registered job. -/

/-- A daemon that accepts is migrated only when launchd's state is known. -/
def Judged (before later : Known) (migrates : Bool) : Prop :=
  ∃ probe launchd, later = { before with probe := probe, launchd := launchd } ∧
    (migrates = true → launchd.loaded.isSome = true)

theorem matchRunning_keeps (daemonAt : DaemonAt env known.job .start dir sock)
    (accepts : known.socket = some (sock, true)) :
    Keeps (watch env parseAddr .start) (Judged known) (fun _ _ => True) known
      (matchRunning env dir sock) := by
  refine .attempted launchAgentRunningPid_keeps ?_ ?_
  · rintro _ pid ⟨launchd, rfl, running, verified⟩
    cases pid with
    | none =>
        exact .consult ⟨dir, none, daemonAt, accepts, running, nofun⟩ fun _ =>
          .pure ⟨_, launchd, rfl, fun _ => verified⟩
    | some pid =>
        refine .andThen (singletonState_keeps dir) ?_
        rintro _ state ⟨probe, rfl, -, shows⟩
        split
        · rename_i same
          subst same
          exact .consult ⟨running, dir, sock, daemonAt, accepts, shows.2.1⟩ fun _ =>
            .pure ⟨probe, launchd, rfl, nofun⟩
        · rename_i other
          refine .consult ⟨dir, some pid, daemonAt, accepts, running, ?_⟩ fun _ =>
            .pure ⟨probe, launchd, rfl, fun _ => verified⟩
          rintro _ ⟨⟩
          exact shows.unmatched other
  · rintro _ _ rfl
    exact .consult ⟨rfl, ⟨rfl, rfl⟩, ⟨dir, daemonAt⟩, accepts⟩ fun _ =>
      .consult ⟨sock, ⟨dir, daemonAt⟩, accepts⟩ fun _ => .pure ⟨_, _, rfl, nofun⟩

theorem superviseRunning_keeps (daemonAt : DaemonAt env known.job .start dir sock)
    (accepts : known.socket = some (sock, true)) :
    Keeps (watch env parseAddr .start) (Judged known) (fun _ _ => True) known
      (superviseRunning env dir sock) := by
  refine .andThen launchAgentLoadState_keeps ?_
  rintro _ state ⟨launchd, rfl, same, asked⟩
  have accepting : Accepting env .start { known with launchd := launchd } :=
    ⟨sock, ⟨dir, daemonAt⟩, accepts⟩
  cases state with
  | loaded => exact matchRunning_keeps daemonAt accepts
  | notLoaded =>
      have verified : launchd.loaded.isSome = true := by rw [same]; rfl
      exact .consult ⟨same, accepting⟩ fun _ =>
        .pure ⟨_, launchd, rfl, fun _ => verified⟩
  | unknown =>
      exact .consult ⟨rfl, ⟨asked rfl, same⟩, ⟨dir, daemonAt⟩, accepts⟩ fun _ =>
        .consult accepting fun _ => .pure ⟨_, launchd, rfl, nofun⟩

theorem clearSingleton_keeps (turns : Nat) (lives : LivesIn env command known dir)
    (may : MayStop env command known) :
    Keeps (watch env parseAddr command)
      (fun later _ => ∃ probe sent socket,
        later = { known with probe := probe, sent := sent, socket := socket } ∧
          probe.opened = none ∧ probe.free = some (pidPath dir))
      (fun _ _ => True) known (clearSingleton turns dir) := by
  refine .andThen (singletonState_keeps dir) ?_
  rintro _ state ⟨probe, rfl, closed, shows⟩
  split
  · rename_i free
    subst free
    exact .pure ⟨probe, _, _, rfl, closed, shows.1⟩
  · have lives : LivesIn env command { known with probe := probe } dir := lives
    have may : MayStop env command { known with probe := probe } := may
    refine .andThen (within_keeps
      (stopDaemonViaPidFile_keeps turns lives may).anyFailure) ?_
    rintro _ outcome ⟨⟨_, sent, socket, rfl⟩, -⟩
    refine .andThen (singletonState_keeps dir) ?_
    rintro _ state ⟨probe, rfl, closed, shows⟩
    split
    · rename_i free
      subst free
      exact .pure ⟨probe, sent, socket, rfl, closed, shows.1⟩
    · exact .throw trivial

theorem ensureSocketDown_keeps (sock : String) :
    Keeps (watch env parseAddr command)
      (fun later _ => later = { known with socket := some (sock, false) })
      (fun _ _ => True) known (ensureSocketDown sock) := by
  refine .andThen (daemonIsUp_keeps sock) ?_
  rintro _ up rfl
  cases up with
  | true => exact .throw trivial
  | false => exact .pure rfl

theorem ensureDaemonLaunchable_keeps (path : String) :
    Keeps (watch env parseAddr command)
      (fun later _ =>
        later = { known with job := { known.job with executable := some path } })
      (fun _ _ => True) known (ensureDaemonLaunchable path) := by
  refine .consult trivial fun metadata => ?_
  by_cases executable : isExecutable metadata = true
  · simp only [executable, if_true]
    refine .pure ?_
    simp only [remember, Job.examine, executable, if_true]
  · simp only [executable]
    exact .throw trivial

theorem remember_readPlist (closed : known.probe.opened = none)
    (read : Except OsError String) :
    remember env known (.readFile (plistOf env)) read =
      { known with job := known.job.read read } := by
  simp only [remember, closed, reduceCtorEq, if_false, if_true]

theorem revalidateProgram_keeps (closed : known.probe.opened = none)
    (read : known.job.registered = some registered) :
    Keeps (watch env parseAddr command)
      (fun later _ => ∃ job, later = { known with job := job } ∧
        job.there = known.job.there ∧ job.registered = some registered ∧
          ∀ program, job.program = some program → job.executable = some program)
      (fun _ _ => True) known (revalidateProgram (plistOf env)) := by
  refine .consultAs (remember_readPlist closed) trivial fun answer => ?_
  have kept : (known.job.read answer).registered = some registered := by
    simp only [Job.read, read, Option.getD_some]
  cases program : programOf answer with
  | none =>
      refine .pure ⟨_, rfl, rfl, kept, fun other registered => ?_⟩
      exact absurd (program.symm.trans registered) nofun
  | some path =>
      refine within_keeps ((ensureDaemonLaunchable_keeps path).weaken ?_)
      rintro _ _ rfl
      refine ⟨_, rfl, rfl, kept, fun other registered => ?_⟩
      exact program.symm.trans registered

theorem launchJob_keeps (unopposed : Unopposed env known registered dir) :
    Keeps (watch env parseAddr command) (fun later _ => Loaded known later)
      (fun _ _ => True) known (launchJob env (plistOf env)) := by
  refine .andThen launchAgentLoadState_keeps ?_
  rintro _ state ⟨launchd, rfl, _⟩
  have unopposed := unopposed.launchd launchd
  cases state with
  | loaded => exact within_keeps (kickstartLaunchAgent_keeps unopposed)
  | notLoaded | unknown => exact within_keeps (bootstrapLaunchAgent_keeps unopposed)

theorem remember_removeFile (env : CliEnv) (known : Known) (path : String)
    (answer : Except OsError Unit) :
    ∃ removed, remember env known (.removeFile path) answer =
      { known with job := { known.job with removed := removed } } := by
  cases answer with
  | ok => exact ⟨some path, rfl⟩
  | error error =>
      simp only [remember]
      split
      · exact ⟨some path, rfl⟩
      · exact ⟨known.job.removed, rfl⟩

/-- The removal of another file, and the rest. -/
theorem removeFile_keeps {post : Known → Prop} {path : String} {action : Action Unit}
    (other : path ≠ plistOf env)
    (keeps : ∀ removed, Sound env parseAddr command post
      { known with job := { known.job with removed := removed } } action) :
    Sound env parseAddr command post known (do
      let _ ← ask (.removeFile path)
      action) := by
  choose removed remembered using remember_removeFile env known path
  exact .consultAs remembered (fun same => absurd same other) fun answer =>
    keeps (removed answer)

/-- From a job that has been read to the job started: all that is checked in between
still holds when it is. -/
theorem startOver_sound (turns : Nat) (there : known.job.there = some true)
    (read : known.job.registered = some registered)
    (located : registeredDir env registered = .ok dir)
    (fits : (registeredSock registered dir).utf8ByteSize + 1 ≤ sunPathMax)
    (may : MayStop env .start known) :
    Sound env parseAddr .start (Up env parseAddr) known
      (startOver parseAddr quoted env turns (plistOf env) dir
        (registeredSock registered dir)) := by
  refine .andThen (clearSingleton_keeps turns ⟨_, .registered there read located⟩ may) ?_
  rintro _ _ ⟨probe, sent, socket, rfl, closed, free⟩
  refine .andThen (ensureSocketDown_keeps _) ?_
  rintro _ _ rfl
  refine .andThen (revalidateProgram_keeps closed read) ?_
  rintro _ _ ⟨job, rfl, same, read, launchable⟩
  have there : job.there = some true := same.trans there
  refine removeFile_keeps (serverJsonPath_ne env dir) fun removed => ?_
  refine .andThen (launchJob_keeps
    ⟨read, located, rfl, fits, ⟨dir, free, .inl rfl⟩, launchable⟩) ?_
  rintro _ _ ⟨launchd, rfl, loaded⟩
  exact .consult loaded fun _ =>
    waitForReady_sound turns _ ⟨_, .registered there read located⟩

theorem registeredPlistEnv_keeps (closed : known.probe.opened = none)
    (unread : known.job.registered = none) :
    Keeps (watch env parseAddr command)
      (fun later registered => ∃ job, later = { known with job := job } ∧
        job.there = known.job.there ∧ job.registered = some registered)
      failed known (registeredPlistEnv (plistOf env)) := by
  refine .consultAs (remember_readPlist closed) trivial fun answer => ?_
  refine .pure ⟨_, rfl, rfl, ?_⟩
  simp only [Job.read, unread, Option.getD_none]

theorem ensureIngestSockLen_keeps (sock : String) :
    Keeps (watch env parseAddr command)
      (fun later _ => later = known ∧ sock.utf8ByteSize + 1 ≤ sunPathMax)
      (fun _ _ => True) known (ensureIngestSockLen sock) := by
  unfold ensureIngestSockLen
  split
  · rename_i fits
    exact .pure ⟨rfl, fits⟩
  · exact .throw trivial

theorem startRegistered_sound (turns : Nat) (closed : known.probe.opened = none)
    (there : known.job.there = some true) (unread : known.job.registered = none) :
    Sound env parseAddr .start (Up env parseAddr) known
      (startRegistered parseAddr quoted env turns (plistOf env)) := by
  refine .andThen (registeredPlistEnv_keeps closed unread) ?_
  rintro _ registered ⟨job, rfl, same, read⟩
  have there : job.there = some true := same.trans there
  refine .andThen ofExcept_keeps ?_
  rintro _ dir ⟨rfl, located⟩
  have daemonAt := DaemonAt.registered there read located
  refine .andThen (ensureIngestSockLen_keeps _) ?_
  rintro _ _ ⟨rfl, fits⟩
  refine .andThen (daemonIsUp_keeps _) ?_
  rintro _ up rfl
  cases up with
  | false =>
      exact startOver_sound turns there read located fits (Or.inr ⟨_, _, daemonAt, rfl⟩)
  | true =>
      refine .andThen (superviseRunning_keeps daemonAt rfl) ?_
      rintro _ migrates ⟨probe, launchd, rfl, verified⟩
      cases migrates with
      | true =>
          exact startOver_sound turns there read located fits (Or.inl (verified rfl))
      | false => exact .pure (.inl ⟨_, ⟨dir, daemonAt⟩, rfl⟩)

theorem remember_pathExists (env : CliEnv) (known : Known) (there : Bool) :
    remember env known (.pathExists (plistOf env)) there =
      { known with job := { known.job with there := some there } } :=
  if_pos rfl

theorem start_sound (turns : Nat) :
    Sound env parseAddr .start (Up env parseAddr) {}
      (start parseAddr quoted env turns) := by
  refine .andThen ofExcept_keeps ?_
  rintro _ dir ⟨rfl, resolved⟩
  refine .andThen ofExcept_keeps ?_
  rintro _ plist ⟨rfl, located⟩
  obtain rfl := plistPath_eq located
  refine .consultAs (remember_pathExists env {}) trivial fun there => ?_
  cases there with
  | true => exact startRegistered_sound turns rfl rfl rfl
  | false => exact startDetached_sound turns rfl rfl resolved

end Start

/-! `stop` -/

theorem stopViaPidFile_sound (turns : Nat) (announce : Bool)
    (may : MayStop env .stop known) :
    Sound env parseAddr .stop (Down env) known (stopViaPidFile env turns announce) := by
  refine .andThen ofExcept_keeps ?_
  rintro known dir ⟨rfl, located⟩
  have lives : LivesIn env .stop known dir := ⟨_, .stopping located⟩
  refine .andThen (stopDaemonViaPidFile_keeps turns lives may).anyFailure ?_
  rintro later outcome ⟨handled, ended⟩
  have lives := handled.livesIn lives
  have down : Down env later := ⟨dir, outcome, located, ended⟩
  cases outcome with
  | notRunning =>
      cases announce with
      | true => exact .last ⟨dir, lives, ended⟩ fun _ => down
      | false => exact .pure down
  | stopped | escalated => exact .last ⟨dir, lives, ended⟩ fun _ => down

theorem stop_sound (turns : Nat) :
    Sound env parseAddr .stop (Down env) known (stop env turns) := by
  refine .andThen ofExcept_keeps ?_
  rintro _ plist ⟨rfl, located⟩
  obtain rfl := plistPath_eq located
  refine .andThen launchAgentLoadState_keeps ?_
  rintro _ state ⟨launchd, rfl, same, -⟩
  cases state with
  | loaded =>
      refine .andThen (within_keeps bootoutLaunchAgent_keeps.anyFailure) ?_
      rintro _ _ ⟨launchd, rfl, out, ordered⟩
      exact .consult ⟨out, ordered⟩ fun _ =>
        stopViaPidFile_sound turns false (Or.inl out)
  | notLoaded => exact stopViaPidFile_sound turns true (Or.inl same)
  | unknown =>
      refine .attempted bootoutLaunchAgent_keeps ?_ ?_
      · rintro _ _ ⟨launchd, rfl, out, -⟩
        exact stopViaPidFile_sound turns true (Or.inl out)
      · rintro later error ⟨ordered, unsure⟩
        have unknown : later.launchd.loaded ≠ some false :=
          unsure fun out => absurd (same.symm.trans out) nofun
        exact .consult ⟨unknown, ordered⟩ fun _ =>
          stopViaPidFile_sound turns true (Or.inr rfl)

/-! `uninstall` -/

theorem removeLaunchAgentPlist_keeps
    (may : known.launchd.loaded = some false ∨ known.noted = true) :
    Keeps (watch env parseAddr command)
      (fun later _ => later.job.removed = some (plistOf env))
      (fun _ _ => True) known (removeLaunchAgentPlist (plistOf env)) := by
  refine .consult (fun _ => may) fun answer => ?_
  cases answer with
  | ok => exact .pure rfl
  | error error =>
      dsimp only
      split
      · rename_i gone
        refine .pure ?_
        simp only [remember, gone, if_true]
      · exact .throw trivial

theorem removeRegistration_sound
    (may : known.launchd.loaded = some false ∨ known.noted = true) :
    Sound env parseAddr command (Unregistered env) known
      (removeRegistration (plistOf env)) := by
  refine .andThen (within_keeps (removeLaunchAgentPlist_keeps may)) ?_
  exact fun _ _ removed => .last ⟨rfl, removed⟩ fun _ => removed

theorem stopLeftover_keeps (turns : Nat) {dir : String}
    (lives : LivesIn env command known dir) (may : MayStop env command known) :
    Keeps (watch env parseAddr command) (fun later _ => Handled known later)
      (fun _ _ => True) known (stopLeftover turns dir) := by
  refine .attempted (stopDaemonViaPidFile_keeps turns lives may) ?_ ?_
  · exact fun _ _ ended => .pure ended.1
  · rintro later stop ⟨handled, taken⟩
    cases stop with
    | unfinished => exact .throw trivial
    | failed chain => exact .last ⟨dir, handled.livesIn lives, taken⟩ fun _ => handled

theorem warnIfAccepting_keeps {dir sock : String}
    (daemonAt : DaemonAt env known.job command dir sock) :
    Keeps (watch env parseAddr command)
      (fun later _ => ∃ socket, later = { known with socket := socket })
      (fun _ _ => True) known (warnIfAccepting sock) := by
  refine .andThen (daemonIsUp_keeps sock) ?_
  rintro _ up rfl
  cases up with
  | true => exact .last ⟨⟨dir, daemonAt⟩, rfl⟩ fun _ => ⟨_, rfl⟩
  | false => exact .pure ⟨_, rfl⟩

theorem teardownSupervision_sound (turns : Nat) (noStop : Bool) :
    Sound env parseAddr (.uninstall noStop) (Unregistered env) {}
      (teardownSupervision env turns noStop) := by
  refine .andThen ofExcept_keeps ?_
  rintro _ plist ⟨rfl, located⟩
  obtain rfl := plistPath_eq located
  cases noStop with
  | true =>
      exact .consult ⟨rfl, rfl, rfl⟩ fun _ => removeRegistration_sound (Or.inr rfl)
  | false =>
      refine .andThen (registeredPlistEnv_keeps rfl rfl) ?_
      rintro _ registered ⟨job, rfl, -, read⟩
      refine .andThen ofExcept_keeps ?_
      rintro _ dir ⟨rfl, located⟩
      have daemonAt : DaemonAt env job (.uninstall false) dir
          (uninstallSock env registered dir) := .uninstalling read located
      refine .andThen (within_keeps bootoutLaunchAgent_keeps.anyFailure) ?_
      rintro _ _ ⟨launchd, rfl, out, -⟩
      refine .andThen (stopLeftover_keeps turns ⟨_, daemonAt⟩ (Or.inl out)) ?_
      rintro _ _ ⟨probe, sent, socket, rfl⟩
      refine .andThen (warnIfAccepting_keeps daemonAt) ?_
      rintro _ _ ⟨socket, rfl⟩
      exact removeRegistration_sound (Or.inl out)

/-! `install` -/

/-- Nothing but what is known of the job has changed. -/
def Examined (before later : Known) : Prop :=
  ∃ job, later = { before with job := job }

theorem Examined.change {before : Known} (examined : Examined before known)
    (job : Job) : Examined before { known with job := job } := by
  obtain ⟨_, rfl⟩ := examined
  exact ⟨job, rfl⟩

section Resolve

variable {before : Known}

theorem isExecutableFile_keeps (examined : Examined before known) (path : String) :
    Keeps (watch env parseAddr command) (fun later _ => Examined before later)
      (fun _ _ => True) known (isExecutableFile path) :=
  .consult trivial fun _ => .pure (examined.change _)

theorem searchPathAbsolute_keeps (examined : Examined before known)
    (dirs : List String) :
    Keeps (watch env parseAddr command) (fun later _ => Examined before later)
      (fun _ _ => True) known (searchPathAbsolute dirs) := by
  induction dirs generalizing known with
  | nil => exact .pure examined
  | cons dir rest induction =>
      unfold searchPathAbsolute
      split
      · exact induction examined
      · refine .andThen (isExecutableFile_keeps examined _) ?_
        intro later executable examined
        cases executable with
        | false => exact induction examined
        | true =>
            refine .consult trivial fun answer => ?_
            cases answer with
            | ok path => exact .pure (examined.change _)
            | error error =>
                dsimp only
                split
                · exact .pure examined
                · exact induction examined

theorem sibling_keeps (examined : Examined before known) (exeDir : Option String) :
    Keeps (watch env parseAddr command) (fun later _ => Examined before later)
      (fun _ _ => True) known (sibling exeDir) := by
  cases exeDir with
  | none => exact .pure examined
  | some dir =>
      refine .andThen (isExecutableFile_keeps examined _) ?_
      intro later executable examined
      cases executable with
      | true => exact .pure examined
      | false => exact .pure examined

theorem resolveDaemonBinAbsolute_keeps (examined : Examined before known) :
    Keeps (watch env parseAddr command) (fun later _ => Examined before later)
      (fun _ _ => True) known (resolveDaemonBinAbsolute env) := by
  unfold resolveDaemonBinAbsolute
  split
  · split
    · exact .pure examined
    · exact .throw trivial
  · refine .andThen (sibling_keeps examined env.exeDir) ?_
    intro later bin examined
    cases bin with
    | some bin => exact .pure examined
    | none =>
        refine .andThen (searchPathAbsolute_keeps examined env.path) ?_
        intro later bin examined
        cases bin with
        | some bin => exact .pure examined
        | none => exact .throw trivial

end Resolve

section Install

variable {dir dirAbs sock : String}

theorem canonicalDir_keeps (dir : String) :
    Keeps (watch env parseAddr command)
      (fun later dirAbs => ∃ job, later = { known with job := job } ∧
        job.canonical = some (dir, dirAbs))
      (fun _ _ => True) known (canonicalDir dir) := by
  refine .consult trivial fun made => .andThen orFail_keeps ?_
  rintro _ _ ⟨rfl, _⟩
  refine .consult trivial fun answer => ?_
  cases answer with
  | ok path => exact .pure ⟨_, rfl, rfl⟩
  | error error => exact .throw trivial

theorem prepareSock_keeps (sock : Option String) :
    Keeps (watch env parseAddr command) (fun later _ => later = known)
      (fun _ _ => True) known (prepareSock sock) := by
  cases sock with
  | none => exact .pure rfl
  | some sock =>
      rw [prepareSock]
      split
      · split
        · exact .pure rfl
        · exact .consult trivial fun made =>
            orFail_keeps.weaken fun _ _ same => same.1
      · exact .throw trivial

theorem createParent_keeps (plist : String) :
    Keeps (watch env parseAddr command) (fun later _ => later = known)
      (fun _ _ => True) known (createParent plist) := by
  unfold createParent
  split
  · exact .pure rfl
  · exact .consult trivial fun made =>
      orFail_keeps.weaken fun _ _ same => same.1

theorem publishPlist_keeps {tmp xml : String} (other : tmp ≠ plistOf env)
    (drafted : known.job.draft = some (tmp, xml)) :
    Keeps (watch env parseAddr command)
      (fun later _ =>
        later = { known with job := known.job.publish (plistOf env) xml })
      (fun _ _ => True) known (publishPlist tmp (plistOf env)) := by
  have removes : MayRemove env known tmp := fun same => absurd same other
  refine .consult trivial fun moded => ?_
  cases moded with
  | error error => exact .consult removes fun _ => .throw trivial
  | ok =>
      refine .consult trivial fun renamed => ?_
      cases renamed with
      | error error => exact .consult removes fun _ => .throw trivial
      | ok =>
          refine .pure ?_
          simp only [remember, drafted, and_self, if_true]

/-- What stands in the property list is what is known of the job. -/
structure Written (known : Known) (plist xml : String) : Prop where
  registered : known.job.registered = some (parsePlistEnvironment xml)
  program : known.job.program = parsePlistProgram xml
  written : known.job.written = some plist

theorem registerPlist_keeps (xml : String) :
    Keeps (watch env parseAddr command)
      (fun later _ => ∃ job, later = { known with job := job } ∧
        Written later (plistOf env) xml ∧ job.canonical = known.job.canonical ∧
        job.executable = known.job.executable)
      (fun _ _ => True) known (registerPlist env (plistOf env) xml) := by
  refine within_keeps (.andThen (createParent_keeps _) ?_)
  rintro _ _ rfl
  refine .consult trivial fun written => ?_
  cases written with
  | error error => exact .throw trivial
  | ok =>
      refine (publishPlist_keeps (uniqueTmpPath_ne env 0 _) rfl).weaken ?_
      rintro _ _ rfl
      exact ⟨_, rfl, ⟨rfl, rfl, rfl⟩, rfl, rfl⟩

theorem bootoutLoaded_keeps :
    Keeps (watch env parseAddr command)
      (fun later _ => ∃ probe launchd socket,
        later = { known with probe := probe, launchd := launchd, socket := socket } ∧
          launchd.loaded = some false)
      (fun _ _ => True) known (bootoutLoaded env (plistOf env)) := by
  refine .andThen launchAgentLoadState_keeps ?_
  rintro _ state ⟨launchd, rfl, same, -⟩
  cases state with
  | notLoaded => exact .pure ⟨_, launchd, _, rfl, same⟩
  | loaded | unknown =>
      refine within_keeps (bootoutLaunchAgent_keeps.anyFailure.weaken ?_)
      rintro _ _ ⟨launchd, rfl, out, -⟩
      exact ⟨_, launchd, _, rfl, out⟩

/-- Nobody accepts on the socket, and nobody holds the singleton. -/
def Clear (probe : Probe) (socket : Option (String × Bool)) (dir sock : String) : Prop :=
  socket = some (sock, false) ∧ probe.free = some (pidPath dir)

/-- Somebody accepts on the socket, or holds the singleton. -/
def Busy (probe : Probe) (socket : Option (String × Bool)) (dir sock : String) : Prop :=
  socket = some (sock, true) ∨ probe.taken = some (pidPath dir)

theorem contended_keeps (dir sock : String) :
    Keeps (watch env parseAddr command)
      (fun later contended => ∃ probe socket,
        later = { known with probe := probe, socket := socket } ∧
          if contended then Busy probe socket dir sock else Clear probe socket dir sock)
      (fun _ _ => True) known (contended dir sock) := by
  refine .andThen (daemonIsUp_keeps sock) ?_
  rintro _ up rfl
  cases up with
  | true => exact .pure ⟨_, _, rfl, .inl rfl⟩
  | false =>
      refine .andThen (singletonState_keeps dir) ?_
      rintro _ state ⟨probe, rfl, -, shows⟩
      refine .pure ⟨probe, _, rfl, ?_⟩
      split
      · rename_i busy
        exact .inr (shows.taken (of_decide_eq_true busy))
      · rename_i free
        have free : state = .free := by simpa using free
        subst free
        exact ⟨rfl, shows.1⟩

theorem stopContender_keeps (turns : Nat)
    (daemonAt : DaemonAt env known.job command dir sock)
    (busy : Busy known.probe known.socket dir sock)
    (out : known.launchd.loaded = some false) (may : MayStop env command known) :
    Keeps (watch env parseAddr command)
      (fun later _ => ∃ probe sent socket,
        later = { known with probe := probe, sent := sent, socket := socket } ∧
          Clear probe socket dir sock)
      (fun _ _ => True) known (stopContender turns dir sock) := by
  refine .consult ⟨out, dir, sock, daemonAt, busy⟩ fun _ => ?_
  refine .andThen (.mapFailure (fun _ _ _ => trivial)
    (stopDaemonViaPidFile_keeps turns ⟨sock, daemonAt⟩ may).anyFailure) ?_
  rintro _ outcome ⟨⟨_, sent, _, rfl⟩, -⟩
  refine .andThen (daemonIsUp_keeps sock) ?_
  rintro _ up rfl
  cases up with
  | true => exact .throw trivial
  | false =>
      refine .andThen (singletonState_keeps dir) ?_
      rintro _ state ⟨probe, rfl, -, shows⟩
      split
      · rename_i free
        subst free
        exact .pure ⟨probe, sent, _, rfl, rfl, shows.1⟩
      · exact .throw trivial

theorem registeredDir_plistEnv (env : CliEnv) (dirAbs : String) :
    registeredDir env (plistEnv env dirAbs) = .ok dirAbs := by
  simp [registeredDir, registeredValue, plistEnv]

theorem registeredSock_plistEnv (env : CliEnv) (dirAbs : String) :
    registeredSock (plistEnv env dirAbs) dirAbs = effectiveIngestSock env dirAbs := by
  unfold registeredSock effectiveIngestSock plistEnv
  cases nonEmpty env.ingestSock with
  | none => simp [registeredValue]
  | some sock => simp [registeredValue]

/-- What `install` knows of the job that it has written. -/
structure Installed (env : CliEnv) (known : Known) (dir dirAbs : String) : Prop where
  read : known.job.registered = some (plistEnv env dirAbs)
  launchable : ∀ program, known.job.program = some program →
    known.job.executable = some program
  canonical : known.job.canonical = some (dir, dirAbs)
  fits : (effectiveIngestSock env dirAbs).utf8ByteSize + 1 ≤ sunPathMax

theorem Installed.unopposed (installed : Installed env known dir dirAbs)
    {probe : Probe} {socket : Option (String × Bool)}
    (clear : Clear probe socket dir (effectiveIngestSock env dirAbs)) (sent : Sent)
    (launchd : Launchd) :
    Unopposed env
      { known with probe := probe, socket := socket, sent := sent, launchd := launchd }
      (plistEnv env dirAbs) dirAbs := by
  have same := registeredSock_plistEnv env dirAbs
  constructor
  · exact installed.read
  · exact registeredDir_plistEnv env dirAbs
  · rw [same]
    exact clear.1
  · rw [same]
    exact installed.fits
  · exact ⟨dir, clear.2, .inr installed.canonical⟩
  · exact installed.launchable

theorem handOff_sound (turns : Nat) {noStart : Bool}
    (located : resolveBowerbirdDir env = .ok dir)
    (installed : Installed env known dir dirAbs)
    (written : known.job.written = some (plistOf env)) :
    Sound env parseAddr (.install noStart) (Registered env noStart) known
      (handOff env turns (plistOf env) dir dirAbs) := by
  have daemonAt : DaemonAt env known.job (.install noStart) dir
      (effectiveIngestSock env dirAbs) := .installing located installed.canonical
  refine .andThen bootoutLoaded_keeps ?_
  rintro _ _ ⟨probe, launchd, socket, rfl, out⟩
  refine .andThen (contended_keeps dir _) ?_
  rintro _ contended ⟨probe, socket, rfl, stands⟩
  cases contended with
  | false =>
      refine .andThen (within_keeps (bootstrapLaunchAgent_keeps
        (installed.unopposed stands known.sent launchd))) ?_
      rintro _ _ ⟨launchd, rfl, loaded⟩
      exact .last loaded fun _ => ⟨written, fun _ => loaded⟩
  | true =>
      refine .andThen (stopContender_keeps turns daemonAt stands out (Or.inl out)) ?_
      rintro _ _ ⟨probe, sent, socket, rfl, clear⟩
      refine .andThen (within_keeps (bootstrapLaunchAgent_keeps
        (installed.unopposed clear sent launchd))) ?_
      rintro _ _ ⟨launchd, rfl, loaded⟩
      exact .last loaded fun _ => ⟨written, fun _ => loaded⟩

theorem superviseOrStart_sound (turns : Nat) (noStart : Bool) :
    Sound env parseAddr (.install noStart) (Registered env noStart) known
      (superviseOrStart env turns noStart) := by
  refine .andThen ofExcept_keeps ?_
  rintro _ plist ⟨rfl, located⟩
  obtain rfl := plistPath_eq located
  refine .andThen (resolveDaemonBinAbsolute_keeps ⟨_, rfl⟩) ?_
  rintro _ daemonPath ⟨job, rfl⟩
  refine .andThen ofExcept_keeps ?_
  rintro _ dir ⟨rfl, resolved⟩
  refine .andThen (canonicalDir_keeps dir) ?_
  rintro _ dirAbs ⟨job, rfl, canonical⟩
  refine .andThen (prepareSock_keeps _) ?_
  rintro _ _ rfl
  refine .andThen (ensureIngestSockLen_keeps _) ?_
  rintro _ _ ⟨rfl, fits⟩
  cases noStart with
  | true =>
      refine .andThen (registerPlist_keeps _) ?_
      rintro _ _ ⟨job, rfl, written, -⟩
      exact .last ⟨rfl, written.written⟩ fun _ => ⟨written.written, nofun⟩
  | false =>
      refine .andThen (ensureDaemonLaunchable_keeps daemonPath) ?_
      rintro _ _ rfl
      refine .andThen (registerPlist_keeps _) ?_
      rintro _ _ ⟨job, rfl, written, kept, executable⟩
      refine .consult ⟨rfl, written.written⟩ fun _ =>
        handOff_sound turns resolved ?_ written.written
      constructor
      · exact written.registered.trans
          (congrArg some (parsePlistEnvironment_render _ _ _ _))
      · intro program registered
        have own := written.program.trans (parsePlistProgram_render _ _ _ _)
        exact executable.trans (own.symm.trans registered)
      · exact kept.trans canonical
      · exact fits

end Install

/-! The commands. -/

theorem command_sound (parseAddr : String → Except String String)
    (quoted : String → String) (env : CliEnv) (turns : Nat) (command : Command) :
    Sound env parseAddr command (Achieved env parseAddr command) {}
      (command.run parseAddr quoted env turns) := by
  cases command with
  | start => exact start_sound turns
  | stop => exact stop_sound turns
  | install noStart => exact superviseOrStart_sound turns noStart
  | uninstall noStop => exact teardownSupervision_sound turns noStop

end Bowerbird.Commands.Lifecycle
