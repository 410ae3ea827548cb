import Bowerbird.Daemon.Singleton
import Mathlib.Data.List.Nodup

namespace Bowerbird.Daemon.Singleton

open Foundation

/-! Whom the pid file names.  Its pid is that of the daemon that wrote it for as
long as that daemon runs, and then the daemon has the lock; afterwards it is
anybody's. -/

/-- A daemon holds the lock, and this is it. -/
def State.IsHolder (state : State) (process : Process) : Prop :=
  process.role.isDaemon = true ∧ state.lock = some process.id

/-- What a step may report. -/
def Right (state : State) : Seen → Prop
  | .probed (.held pid) =>
      ∃ process ∈ state.processes, process.pid = pid ∧ state.IsHolder process
  | .probed _ => True
  | .alreadyHeld _ met => met = true
  | .signalled target =>
      ∃ process ∈ state.processes, process.id = target ∧
        state.IsHolder process

/-- No process has the pid but the one that wrote it, and that one has not begun
to leave. -/
def State.Current (state : State) (stamp : Stamp) : Prop :=
  ∀ process ∈ state.processes, process.pid = stamp.pid →
    process.id = stamp.writer ∧ process.role ≠ .daemon .leaving

/-- No probe has the lock. -/
def State.Unprobed (state : State) : Prop :=
  ∀ process ∈ state.processes, state.lock = some process.id →
    process.role.isDaemon = true

/-- A pid that is tested for life or signalled is that of its writer, and no
attempt of acquire on the lock meets a probe. -/
def Role.Fair (state : State) : Role → Prop
  | .cli _ (.testing stamp) | .cli _ (.signalling stamp)
  | .cli _ (.killing stamp) => state.Current stamp
  | .daemon .opened | .daemon (.retrying _) => state.Unprobed
  | _ => True

def Fair (state : State) : Label → Prop
  | .act id _ =>
      ∀ process ∈ state.processes, process.id = id → process.role.Fair state
  | _ => True

instance (state : State) (process : Process) :
    Decidable (state.IsHolder process) :=
  inferInstanceAs (Decidable (_ ∧ _))

instance (state : State) : (event : Seen) → Decidable (Right state event)
  | .probed (.held pid) => inferInstanceAs
      (Decidable (∃ process ∈ state.processes, process.pid = pid ∧ _))
  | .probed .free => .isTrue trivial
  | .probed .heldUnknownPid => .isTrue trivial
  | .alreadyHeld _ met => inferInstanceAs (Decidable (met = true))
  | .signalled target => inferInstanceAs
      (Decidable (∃ process ∈ state.processes, process.id = target ∧ _))

instance (state : State) (stamp : Stamp) : Decidable (state.Current stamp) :=
  inferInstanceAs (Decidable (∀ process ∈ state.processes, _))

instance (state : State) : Decidable state.Unprobed :=
  inferInstanceAs (Decidable (∀ process ∈ state.processes, _))

instance (state : State) (role : Role) : Decidable (role.Fair state) := by
  unfold Role.Fair
  split <;> infer_instance

instance (state : State) (label : Label) : Decidable (Fair state label) := by
  unfold Fair
  split <;> infer_instance

/-! The invariant. -/

/-- A daemon that has written its pid, until it is gone. -/
def Role.served : Role → Bool
  | .daemon .serving | .daemon .leaving => true
  | _ => false

/-- A stamp's writer, if it still runs, is a daemon that has served under its
pid. -/
def State.Vouched (state : State) (stamp : Stamp) : Prop :=
  stamp.writer < state.next ∧
    ∀ process ∈ state.processes, process.id = stamp.writer →
      process.role.served = true ∧ process.pid = stamp.pid

/-- The stamps that are in the file or in somebody's hands. -/
def State.Carries (state : State) (stamp : Stamp) : Prop :=
  state.file.stamp? = some stamp ∨
    ∃ process ∈ state.processes, process.role.stamp? = some stamp

structure State.Sound (state : State) : Prop where
  ids : (state.processes.map Process.id).Nodup
  fresh : ∀ process ∈ state.processes, process.id < state.next
  held : ∀ id, state.lock = some id →
    ∃ process ∈ state.processes, process.id = id ∧
      process.role.holdsLock = true
  holds : ∀ process ∈ state.processes, process.role.holdsLock = true →
    state.lock = some process.id
  vouched : ∀ stamp, state.Carries stamp → state.Vouched stamp

theorem State.Sound.eq_of_id {state : State} (sound : state.Sound)
    {left right : Process} (first : left ∈ state.processes)
    (second : right ∈ state.processes) (same : left.id = right.id) :
    left = right :=
  List.inj_on_of_nodup_map sound.ids first second same

theorem State.sound_boot (left : Option Nat) : (State.boot left).Sound where
  ids := List.nodup_nil
  fresh := by
    intro process member
    cases member
  held := by
    intro id locked
    cases locked
  holds := by
    intro process member
    cases member
  vouched := by
    intro stamp carries
    rcases carries with written | ⟨process, member, _⟩
    · cases left with
      | none => cases written
      | some pid =>
          cases written
          refine ⟨Nat.zero_lt_one, ?_⟩
          intro process member
          cases member
    · cases member

theorem Role.stamp?_initial {role : Role} (initial : role.isInitial = true) :
    role.stamp? = none ∧ role.holdsLock = false := by
  simp only [isInitial, Bool.or_eq_true, decide_eq_true_eq] at initial
  rcases initial with ((rfl | rfl) | rfl) | rfl <;> exact ⟨rfl, rfl⟩

theorem State.Sound.spawn {state : State} (sound : state.Sound) {pid : Nat}
    {role : Role} (initial : role.isInitial = true) :
    (state.spawn pid role).Sound := by
  obtain ⟨unstamped, unlocked⟩ := role.stamp?_initial initial
  have members : ∀ process ∈ (state.spawn pid role).processes,
      process ∈ state.processes ∨ process = ⟨state.next, pid, role⟩ := by
    intro process member
    simpa [State.spawn] using member
  exact {
    ids := by
      simp only [State.spawn, List.map_append, List.map_cons, List.map_nil]
      apply List.Nodup.append sound.ids (List.nodup_singleton _)
      intro id member other
      obtain ⟨process, inside, rfl⟩ := List.mem_map.mp member
      have older := sound.fresh process inside
      rw [List.mem_singleton.mp other] at older
      exact Nat.lt_irrefl _ older
    fresh := by
      intro process member
      rcases members process member with member | rfl
      · exact Nat.lt_succ_of_lt (sound.fresh process member)
      · exact Nat.lt_succ_self _
    held := by
      intro id locked
      obtain ⟨process, member, same, holds⟩ := sound.held id locked
      exact ⟨process, List.mem_append_left _ member, same, holds⟩
    holds := by
      intro process member holds
      rcases members process member with member | rfl
      · exact sound.holds process member holds
      · rw [unlocked] at holds
        cases holds
    vouched := by
      intro stamp carries
      have before : state.Carries stamp := by
        rcases carries with written | ⟨process, member, carried⟩
        · exact .inl written
        · rcases members process member with member | rfl
          · exact .inr ⟨process, member, carried⟩
          · rw [unstamped] at carried
            cases carried
      obtain ⟨older, writer⟩ := sound.vouched stamp before
      refine ⟨Nat.lt_succ_of_lt older, ?_⟩
      intro process member same
      rcases members process member with member | rfl
      · exact writer process member same
      · rw [← same] at older
        exact absurd older (Nat.lt_irrefl _) }

theorem Role.holdsLock_isLeft {role : Role} (out : role.isLeft = true) :
    role.holdsLock = false := by
  unfold isLeft at out
  split at out
  · rfl
  · rfl
  · cases out

theorem State.Sound.exit {state : State} (sound : state.Sound)
    {process : Process} (member : process ∈ state.processes)
    (out : process.role.isLeft = true) : (state.exit process.id).Sound := by
  have members : ∀ other, other ∈ (state.exit process.id).processes ↔
      other ∈ state.processes ∧ other.id ≠ process.id := by
    intro other
    simp [State.exit]
  exact {
    ids := sound.ids.sublist (List.filter_sublist.map Process.id)
    fresh := fun other inside =>
      sound.fresh other ((members other).mp inside).1
    held := by
      intro id locked
      obtain ⟨holder, inside, same, holds⟩ := sound.held id locked
      refine ⟨holder, (members holder).mpr ⟨inside, ?_⟩, same, holds⟩
      intro gone
      rw [sound.eq_of_id inside member gone, Role.holdsLock_isLeft out] at holds
      cases holds
    holds := fun other inside =>
      sound.holds other ((members other).mp inside).1
    vouched := by
      intro stamp carries
      have before : state.Carries stamp := by
        rcases carries with written | ⟨other, inside, carried⟩
        · exact .inl written
        · exact .inr ⟨other, ((members other).mp inside).1, carried⟩
      obtain ⟨older, writer⟩ := sound.vouched stamp before
      refine ⟨older, ?_⟩
      intro other inside same
      exact writer other ((members other).mp inside).1 same }

/-- What one syscall of a process, or its end, can change. -/
structure Fits (state : State) (process : Process) (turn : Turn) : Prop where
  served : process.role.served = true → turn.role.served = true
  lock : (turn.lock = state.lock ∧
      turn.role.holdsLock = process.role.holdsLock) ∨
    (state.lock = none ∧ turn.lock = some process.id ∧
      turn.role.holdsLock = true) ∨
    (process.role.holdsLock = true ∧ turn.lock = none ∧
      turn.role.holdsLock = false)
  carried : ∀ stamp, turn.role.stamp? = some stamp →
    state.file.stamp? = some stamp ∨ process.role.stamp? = some stamp
  written : ∀ stamp, turn.file.stamp? = some stamp →
    state.file.stamp? = some stamp ∨
      (stamp = ⟨process.pid, process.id⟩ ∧ turn.role.served = true)

theorem Fits.quiet {state : State} {process : Process} {role : Role}
    {seen : List Seen} (idle : process.role.served = false)
    (lock : role.holdsLock = process.role.holdsLock)
    (carried : ∀ stamp, role.stamp? = some stamp →
      state.file.stamp? = some stamp ∨ process.role.stamp? = some stamp) :
    Fits state process (become state role seen) where
  served := fun served => by rw [idle] at served; cases served
  lock := .inl ⟨rfl, lock⟩
  carried := carried
  written := fun _ written => .inl written

/-- A role that carries nothing. -/
theorem Fits.plain {state : State} {process : Process} {role : Role}
    {seen : List Seen} (idle : process.role.served = false)
    (lock : role.holdsLock = process.role.holdsLock)
    (bare : role.stamp? = none) :
    Fits state process (become state role seen) := by
  apply Fits.quiet idle lock
  intro stamp carried
  rw [bare] at carried
  cases carried

theorem Fits.flock {state : State} {process : Process} {role : Role}
    {refused : Turn} (idle : process.role.served = false)
    (holds : role.holdsLock = true) (bare : role.stamp? = none)
    (stays : Fits state process refused) :
    Fits state process
      (flock state process (become state role []) refused) := by
  unfold Singleton.flock
  split
  · rename_i free
    exact {
      served := fun served => by rw [idle] at served; cases served
      lock := .inr (.inl ⟨Option.isNone_iff_eq_none.mp free, rfl, holds⟩)
      carried := by
        intro stamp carried
        simp only [become] at carried
        rw [bare] at carried
        cases carried
      written := fun _ written => .inl written }
  · exact stays

theorem Fits.signal {state : State} {process : Process} {stamp : Stamp}
    {delivered missed : Role}
    (first : Fits state process (become state delivered []))
    (second : Fits state process (become state missed [])) :
    Fits state process (signal state stamp delivered missed) := by
  unfold Singleton.signal
  split
  · exact {
      served := first.served
      lock := first.lock
      carried := first.carried
      written := first.written }
  · exact second

theorem daemonTurn_fits {state : State} {process : Process}
    {phase : DaemonPhase} {next : Turn} (role : process.role = .daemon phase)
    (turns : daemonTurn state process phase = some next) :
    Fits state process next := by
  have idle : (Role.daemon phase).served = false → process.role.served = false := by
    rw [role]
    exact id
  cases phase with
  | starting =>
      cases turns
      exact {
        served := fun served => by rw [idle rfl] at served; cases served
        lock := .inl ⟨rfl, by rw [role]; rfl⟩
        carried := nofun
        written := by
          intro stamp written
          simp only at written
          split at written
          · cases written
          · exact .inl written }
  | opened =>
      cases turns
      apply Fits.flock (idle rfl) rfl rfl
      exact .plain (idle rfl) (by rw [role]; rfl) rfl
  | conflicted met =>
      cases turns
      exact .plain (idle rfl) (by rw [role]; rfl) rfl
  | judging met holder =>
      simp only [daemonTurn] at turns
      split at turns
      · cases turns
        exact .plain (idle rfl) (by rw [role]; rfl) rfl
      · cases turns
        exact .plain (idle rfl) (by rw [role]; rfl) rfl
  | retrying holder =>
      cases turns
      apply Fits.flock (idle rfl) rfl rfl
      exact .plain (idle rfl) (by rw [role]; rfl) rfl
  | locked =>
      cases turns
      exact {
        served := fun served => by rw [idle rfl] at served; cases served
        lock := .inl ⟨rfl, by rw [role]; rfl⟩
        carried := nofun
        written := nofun }
  | truncated =>
      cases turns
      exact {
        served := fun served => by rw [idle rfl] at served; cases served
        lock := .inl ⟨rfl, by rw [role]; rfl⟩
        carried := nofun
        written := by
          intro stamp written
          cases written
          exact .inr ⟨rfl, rfl⟩ }
  | serving | leaving => cases turns

theorem cliTurn_fits {state : State} {process : Process} {purpose : Purpose}
    {phase : CliPhase} {expired : Bool} {next : Turn}
    (role : process.role = .cli purpose phase)
    (turns : cliTurn state process purpose expired phase = some next) :
    Fits state process next := by
  have idle : process.role.served = false := by
    rw [role]
    rfl
  have keeps : ∀ {next : Role} {stamp : Stamp} {seen : List Seen},
      phase.stamp? = some stamp → next.holdsLock = false →
      process.role.holdsLock = false →
      (next.stamp? = none ∨ next.stamp? = some stamp) →
      Fits state process (become state next seen) := by
    intro next stamp seen has unlocked free carried
    apply Fits.quiet idle (unlocked.trans free.symm)
    intro other same
    rcases carried with bare | kept
    · rw [bare] at same
      cases same
    · rw [kept] at same
      right
      rw [role]
      exact has.trans same
  cases phase with
  | starting =>
      cases turns
      split
      · exact .plain idle (by rw [role]; rfl) rfl
      · exact .plain idle (by rw [role]; rfl) rfl
  | opened =>
      cases turns
      apply Fits.flock idle rfl rfl
      exact .plain idle (by rw [role]; rfl) rfl
  | locked =>
      cases turns
      exact {
        served := fun served => by rw [idle] at served; cases served
        lock := .inr (.inr ⟨by rw [role]; rfl, rfl, rfl⟩)
        carried := nofun
        written := fun _ written => .inl written }
  | conflicted =>
      simp only [cliTurn] at turns
      split at turns
      · rename_i stamp found
        split at turns
        · cases turns
          apply Fits.quiet idle (by rw [role]; rfl)
          intro other same
          left
          cases same
          exact found
        · cases turns
          exact .plain idle (by rw [role]; rfl) rfl
      · cases turns
        exact .plain idle (by rw [role]; rfl) rfl
  | testing stamp =>
      cases turns
      split
      · apply keeps rfl
        · cases purpose with
          | again retried => cases retried <;> rfl
          | _ => rfl
        · rw [role]
          rfl
        · cases purpose with
          | look => exact .inl rfl
          | stop => exact .inr rfl
          | again retried =>
              cases retried with
              | false => exact .inr rfl
              | true => exact .inl rfl
      · exact .plain idle (by rw [role]; rfl) rfl
  | signalling stamp =>
      cases turns
      apply Fits.signal
      · exact keeps rfl rfl (by rw [role]; rfl) (.inr rfl)
      · exact .plain idle (by rw [role]; rfl) rfl
  | waiting stamp =>
      cases turns
      split
      · cases expired with
        | false => exact keeps rfl rfl (by rw [role]; rfl) (.inr rfl)
        | true => exact keeps rfl rfl (by rw [role]; rfl) (.inr rfl)
      · exact .plain idle (by rw [role]; rfl) rfl
  | killing stamp =>
      cases turns
      apply Fits.signal
      · exact .plain idle (by rw [role]; rfl) rfl
      · exact .plain idle (by rw [role]; rfl) rfl

theorem turn_fits {state : State} {process : Process} {expired : Bool}
    {next : Turn} (turns : turn state process expired = some next) :
    Fits state process next := by
  unfold turn at turns
  split at turns
  · rename_i role
    exact daemonTurn_fits role turns
  · rename_i role
    exact cliTurn_fits role turns
  · cases turns

theorem Role.left_served {role : Role} (served : role.served = true) :
    role.left.served = true := by
  unfold Role.served at served
  split at served
  · rfl
  · rfl
  · cases served

theorem Role.left_bare (role : Role) :
    role.left.stamp? = none ∧ role.left.holdsLock = false := by
  unfold left
  split <;> exact ⟨rfl, rfl⟩

theorem leaveTurn_fits {state : State} (sound : state.Sound)
    {process : Process} (member : process ∈ state.processes) :
    Fits state process (leaveTurn state process) where
  served := Role.left_served
  lock := by
    obtain ⟨_, unlocked⟩ := process.role.left_bare
    cases holds : process.role.holdsLock with
    | true =>
        have locked := sound.holds process member holds
        exact .inr (.inr ⟨rfl, if_pos locked, unlocked⟩)
    | false =>
        left
        refine ⟨if_neg fun locked => ?_, unlocked⟩
        obtain ⟨holder, inside, same, other⟩ := sound.held _ locked
        rw [sound.eq_of_id inside member same, holds] at other
        cases other
  carried := by
    intro stamp carried
    simp only [leaveTurn, become] at carried
    rw [process.role.left_bare.1] at carried
    cases carried
  written := fun _ written => .inl written

/-- The processes after a turn: the others, and the one with its next role. -/
theorem State.mem_take {state : State} (sound : state.Sound)
    {process : Process} (member : process ∈ state.processes) (turn : Turn)
    {other : Process} :
    other ∈ (state.take process.id turn).processes ↔
      (other ∈ state.processes ∧ other.id ≠ process.id) ∨
        other = { process with role := turn.role } := by
  simp only [State.take, List.mem_map]
  constructor
  · rintro ⟨before, inside, rfl⟩
    split
    · rename_i same
      rw [sound.eq_of_id inside member same]
      exact .inr rfl
    · rename_i apart
      exact .inl ⟨inside, apart⟩
  · rintro (⟨inside, apart⟩ | rfl)
    · exact ⟨other, inside, if_neg apart⟩
    · exact ⟨process, member, if_pos rfl⟩

theorem State.Sound.take {state : State} (sound : state.Sound)
    {process : Process} (member : process ∈ state.processes) {turn : Turn}
    (fits : Fits state process turn) :
    (state.take process.id turn).Sound := by
  have members : ∀ {other : Process},
      other ∈ (state.take process.id turn).processes ↔ _ :=
    State.mem_take sound member turn
  have others : ∀ other ∈ state.processes, other.role.holdsLock = true →
      other.id ≠ process.id → turn.lock = state.lock := by
    intro other inside holds apart
    have locked := sound.holds other inside holds
    rcases fits.lock with ⟨same, _⟩ | ⟨free, _, _⟩ | ⟨mine, _, _⟩
    · exact same
    · rw [free] at locked
      cases locked
    · rw [sound.holds process member mine] at locked
      exact absurd (Option.some.inj locked).symm apart
  exact {
    ids := by
      have same : (state.take process.id turn).processes.map Process.id =
          state.processes.map Process.id := by
        simp only [State.take, List.map_map]
        apply List.map_congr_left
        intro other _
        simp only [Function.comp]
        split
        · rfl
        · rfl
      rw [same]
      exact sound.ids
    fresh := by
      intro other inside
      rcases members.mp inside with ⟨inside, _⟩ | rfl
      · exact sound.fresh other inside
      · exact sound.fresh process member
    held := by
      intro id locked
      change turn.lock = some id at locked
      rcases fits.lock with ⟨same, role⟩ | ⟨_, taken, holds⟩ | ⟨_, freed, _⟩
      · rw [same] at locked
        obtain ⟨holder, inside, name, holds⟩ := sound.held id locked
        by_cases mine : holder.id = process.id
        · refine ⟨{ process with role := turn.role },
            members.mpr (.inr rfl), mine.symm.trans name, ?_⟩
          rw [role, ← sound.eq_of_id inside member mine]
          exact holds
        · exact ⟨holder, members.mpr (.inl ⟨inside, mine⟩), name, holds⟩
      · rw [taken] at locked
        exact ⟨{ process with role := turn.role }, members.mpr (.inr rfl),
          Option.some.inj locked, holds⟩
      · rw [freed] at locked
        cases locked
    holds := by
      intro other inside holds
      change turn.lock = some other.id
      rcases members.mp inside with ⟨inside, apart⟩ | rfl
      · rw [others other inside holds apart]
        exact sound.holds other inside holds
      · rcases fits.lock with ⟨same, role⟩ | ⟨_, taken, _⟩ | ⟨_, _, unlocked⟩
        · rw [same]
          apply sound.holds process member
          rw [← role]
          exact holds
        · exact taken
        · rw [unlocked] at holds
          cases holds
    vouched := by
      have older : ∀ stamp, state.Carries stamp →
          (state.take process.id turn).Vouched stamp := by
        intro stamp carries
        obtain ⟨early, writer⟩ := sound.vouched stamp carries
        refine ⟨early, ?_⟩
        intro other inside name
        rcases members.mp inside with ⟨inside, _⟩ | rfl
        · exact writer other inside name
        · obtain ⟨served, pid⟩ := writer process member name
          exact ⟨fits.served served, pid⟩
      have mine : ∀ stamp, process.role.stamp? = some stamp →
          (state.take process.id turn).Vouched stamp :=
        fun stamp carried => older stamp (.inr ⟨process, member, carried⟩)
      intro stamp carries
      rcases carries with written | ⟨other, inside, carried⟩
      · rcases fits.written stamp written with before | ⟨rfl, serves⟩
        · exact older stamp (.inl before)
        · refine ⟨sound.fresh process member, ?_⟩
          intro other inside name
          rcases members.mp inside with ⟨_, apart⟩ | rfl
          · exact absurd name apart
          · exact ⟨serves, rfl⟩
      · rcases members.mp inside with ⟨inside, _⟩ | rfl
        · exact older stamp (.inr ⟨other, inside, carried⟩)
        · rcases fits.carried stamp carried with before | before
          · exact older stamp (.inl before)
          · exact mine stamp before }

theorem step_sound {state next : State} {label : Label} {seen : List Seen}
    (taken : machine.step state label = some (next, seen))
    (sound : state.Sound) : next.Sound := by
  cases label with
  | spawn pid role =>
      simp only [machine] at taken
      split at taken
      · rename_i allowed
        cases taken
        exact sound.spawn allowed.2.2
      · cases taken
  | act id expired =>
      simp only [machine] at taken
      split at taken
      · rename_i process found
        obtain ⟨turn, turns, same⟩ := Option.map_eq_some_iff.mp taken
        cases same
        have name : process.id = id := by
          simpa using List.find?_some found
        rw [← name]
        exact sound.take (List.mem_of_find?_eq_some found) (turn_fits turns)
      · cases taken
  | leave id =>
      simp only [machine, Option.map_eq_some_iff] at taken
      obtain ⟨process, found, same⟩ := taken
      cases same
      have name : process.id = id := by
        simpa using List.find?_some found
      have member := List.mem_of_find?_eq_some found
      rw [← name]
      exact sound.take member (leaveTurn_fits sound member)
  | exit id =>
      simp only [machine] at taken
      split at taken
      · rename_i process found
        split at taken
        · rename_i out
          cases taken
          have name : process.id = id := by
            simpa using List.find?_some found
          rw [← name]
          exact sound.exit (List.mem_of_find?_eq_some found) out
        · cases taken
      · cases taken

theorem sound_of_run {ok : State → Label → Prop} {left : Option Nat}
    {state : State} {seen : List Seen}
    (run : machine.Run ok (.boot left) state seen) : state.Sound := by
  apply run.invariant (fun state _ => state.Sound)
  · exact State.sound_boot left
  · intro _ _ _ _ _ _ sound _ taken
    exact step_sound taken sound

/-! What a fair step reports. -/

theorem State.Sound.isHolder {state : State} (sound : state.Sound)
    {stamp : Stamp} (carries : state.Carries stamp)
    (current : state.Current stamp) {process : Process}
    (member : process ∈ state.processes) (pid : process.pid = stamp.pid) :
    state.IsHolder process := by
  obtain ⟨writer, stays⟩ := current process member pid
  obtain ⟨served, _⟩ := (sound.vouched stamp carries).2 process member writer
  have serves : process.role = .daemon .serving := by
    unfold Role.served at served
    split at served
    · assumption
    · rename_i leaving
      exact absurd leaving stays
    · cases served
  constructor
  · rw [serves]
    rfl
  · apply sound.holds process member
    rw [serves]
    rfl

theorem State.Sound.heldByDaemon {state : State} (sound : state.Sound)
    (unprobed : state.Unprobed) (locked : state.lock.isNone = false) :
    state.heldByDaemon = true := by
  obtain ⟨id, held⟩ : ∃ id, state.lock = some id := by
    cases held : state.lock with
    | none => simp [held] at locked
    | some id => exact ⟨id, rfl⟩
  obtain ⟨process, member, rfl, _⟩ := sound.held id held
  unfold State.heldByDaemon
  apply List.any_eq_true.mpr
  refine ⟨process, member, ?_⟩
  simp [unprobed process member held, held]

/-! An attempt that acquire judges has met a daemon. -/

def Role.met? : Role → Option Bool
  | .daemon (.conflicted met) | .daemon (.judging met _) => some met
  | _ => none

def State.Met (state : State) : Prop :=
  ∀ process ∈ state.processes, process.role.met? ≠ some false

theorem daemonTurn_met {state : State} (sound : state.Sound)
    {process : Process} {phase : DaemonPhase} {next : Turn}
    (fair : Role.Fair state (.daemon phase))
    (met : Role.met? (.daemon phase) ≠ some false)
    (turns : daemonTurn state process phase = some next) :
    next.role.met? ≠ some false := by
  cases phase with
  | opened =>
      cases turns
      unfold flock
      split
      · nofun
      · rename_i locked
        have held := sound.heldByDaemon fair (Bool.eq_false_iff.mpr locked)
        simp [become, Role.met?, held]
  | conflicted before =>
      cases turns
      exact met
  | judging before holder =>
      simp only [daemonTurn] at turns
      split at turns
      · cases turns
        nofun
      · cases turns
        nofun
  | retrying holder =>
      cases turns
      unfold flock
      split
      · nofun
      · nofun
  | starting | locked | truncated =>
      cases turns
      nofun
  | serving | leaving => cases turns

theorem cliTurn_met {state : State} {process : Process} {purpose : Purpose}
    {phase : CliPhase} {expired : Bool} {next : Turn}
    (turns : cliTurn state process purpose expired phase = some next) :
    next.role.met? = none := by
  cases phase with
  | starting =>
      cases turns
      split <;> rfl
  | opened =>
      cases turns
      unfold flock
      split <;> rfl
  | locked =>
      cases turns
      rfl
  | conflicted =>
      simp only [cliTurn] at turns
      split at turns
      · split at turns <;> cases turns <;> rfl
      · cases turns
        rfl
  | testing stamp =>
      cases turns
      split
      · cases purpose with
        | again retried => cases retried <;> rfl
        | look | stop => rfl
      · rfl
  | signalling stamp | killing stamp =>
      cases turns
      unfold signal
      split <;> rfl
  | waiting stamp =>
      cases turns
      split
      · cases expired <;> rfl
      · rfl

theorem turn_met {state : State} (sound : state.Sound) {process : Process}
    {expired : Bool} {next : Turn} (fair : process.role.Fair state)
    (met : process.role.met? ≠ some false)
    (turns : turn state process expired = some next) :
    next.role.met? ≠ some false := by
  unfold turn at turns
  split at turns
  · rename_i role
    rw [role] at fair met
    exact daemonTurn_met sound fair met turns
  · rw [cliTurn_met turns]
    nofun
  · cases turns

theorem State.Met.take {state : State} (met : state.Met)
    (sound : state.Sound) {process : Process}
    (member : process ∈ state.processes) {turn : Turn}
    (judges : turn.role.met? ≠ some false) :
    (state.take process.id turn).Met := by
  intro other inside
  rcases (State.mem_take sound member turn).mp inside with ⟨inside, _⟩ | rfl
  · exact met other inside
  · exact judges

theorem Role.left_met (role : Role) : role.left.met? = none := by
  unfold left
  split <;> rfl

theorem step_met {state next : State} {label : Label} {seen : List Seen}
    (taken : machine.step state label = some (next, seen))
    (fair : Fair state label) (sound : state.Sound) (met : state.Met) :
    next.Met := by
  cases label with
  | spawn pid role =>
      simp only [machine] at taken
      split at taken
      · rename_i allowed
        cases taken
        intro process member
        have members : process ∈ state.processes ∨
            process = ⟨state.next, pid, role⟩ := by
          simpa [State.spawn] using member
        rcases members with member | rfl
        · exact met process member
        · obtain ⟨_, _, initial⟩ := allowed
          simp only [Role.isInitial, Bool.or_eq_true, decide_eq_true_eq]
            at initial
          rcases initial with ((rfl | rfl) | rfl) | rfl <;> nofun
      · cases taken
  | act id expired =>
      simp only [machine] at taken
      split at taken
      · rename_i process found
        obtain ⟨turn, turns, same⟩ := Option.map_eq_some_iff.mp taken
        cases same
        have name : process.id = id := by
          simpa using List.find?_some found
        have member := List.mem_of_find?_eq_some found
        rw [← name]
        exact met.take sound member
          (turn_met sound (fair process member name) (met process member) turns)
      · cases taken
  | leave id =>
      simp only [machine, Option.map_eq_some_iff] at taken
      obtain ⟨process, found, same⟩ := taken
      cases same
      have name : process.id = id := by
        simpa using List.find?_some found
      rw [← name]
      refine met.take sound (List.mem_of_find?_eq_some found) ?_
      simp only [leaveTurn, become, Role.left_met]
      nofun
  | exit id =>
      simp only [machine] at taken
      split at taken
      · split at taken
        · cases taken
          intro process member
          exact met process (List.mem_filter.mp member).1
        · cases taken
      · cases taken

theorem met_of_run {left : Option Nat} {state : State} {seen : List Seen}
    (run : machine.Run Fair (.boot left) state seen) : state.Met := by
  have both : state.Sound ∧ state.Met := by
    apply run.invariant (fun state _ => state.Sound ∧ state.Met)
    · refine ⟨State.sound_boot left, ?_⟩
      intro process member
      cases member
    · intro _ _ _ _ _ _ ⟨sound, met⟩ fair taken
      exact ⟨step_sound taken sound, step_met taken fair sound met⟩
  exact both.2

theorem right_signal {state : State} (sound : state.Sound) {stamp : Stamp}
    (carries : state.Carries stamp) (current : state.Current stamp)
    {delivered missed : Role} :
    ∀ event ∈ (signal state stamp delivered missed).seen,
      Right state event := by
  intro event reported
  unfold signal at reported
  split at reported
  · rename_i target found
    rw [List.mem_singleton.mp reported]
    have member := List.mem_of_find?_eq_some found
    have pid : target.pid = stamp.pid := by
      simpa using List.find?_some found
    exact ⟨target, member, rfl, sound.isHolder carries current member pid⟩
  · cases reported

theorem right_flock {state : State} {process : Process} {taken refused : Turn}
    (first : ∀ event ∈ taken.seen, Right state event)
    (second : state.lock.isNone = false →
      ∀ event ∈ refused.seen, Right state event) :
    ∀ event ∈ (flock state process taken refused).seen,
      Right state event := by
  intro event reported
  unfold flock at reported
  split at reported
  · exact first event reported
  · rename_i locked
    exact second (Bool.eq_false_iff.mpr locked) event reported

theorem daemonTurn_right {state : State} (sound : state.Sound)
    {process : Process} {phase : DaemonPhase} {next : Turn}
    (fair : Role.Fair state (.daemon phase))
    (met : Role.met? (.daemon phase) ≠ some false)
    (turns : daemonTurn state process phase = some next) :
    ∀ event ∈ next.seen, Right state event := by
  intro event reported
  cases phase with
  | judging before holder =>
      simp only [daemonTurn] at turns
      split at turns
      · cases turns
        cases reported
      · cases turns
        rw [List.mem_singleton.mp reported]
        cases before with
        | false => exact absurd rfl met
        | true => rfl
  | retrying holder =>
      cases turns
      revert event
      apply right_flock
      · nofun
      · intro locked event reported
        rw [List.mem_singleton.mp reported]
        exact sound.heldByDaemon fair locked
  | opened =>
      cases turns
      revert event
      apply right_flock
      · nofun
      · nofun
  | starting | conflicted | locked | truncated =>
      cases turns
      cases reported
  | serving | leaving => cases turns

theorem cliTurn_right {state : State} (sound : state.Sound)
    {process : Process} (member : process ∈ state.processes)
    {purpose : Purpose} {phase : CliPhase} {expired : Bool} {next : Turn}
    (role : process.role = .cli purpose phase)
    (fair : Role.Fair state (.cli purpose phase))
    (turns : cliTurn state process purpose expired phase = some next) :
    ∀ event ∈ next.seen, Right state event := by
  have carries : ∀ stamp, phase.stamp? = some stamp →
      state.Carries stamp := by
    intro stamp has
    refine .inr ⟨process, member, ?_⟩
    rw [role]
    exact has
  intro event reported
  cases phase with
  | starting =>
      cases turns
      split at reported
      · rw [List.mem_singleton.mp reported]
        trivial
      · cases reported
  | opened =>
      cases turns
      revert event
      apply right_flock
      · nofun
      · nofun
  | locked =>
      cases turns
      rw [List.mem_singleton.mp reported]
      trivial
  | conflicted =>
      simp only [cliTurn] at turns
      split at turns
      · split at turns
        · cases turns
          cases reported
        · cases turns
          rw [List.mem_singleton.mp reported]
          trivial
      · cases turns
        rw [List.mem_singleton.mp reported]
        trivial
  | testing stamp =>
      cases turns
      split at reported
      · rename_i alive
        rw [List.mem_singleton.mp reported]
        obtain ⟨owner, inside, pid⟩ := List.any_eq_true.mp alive
        have pid := of_decide_eq_true pid
        exact ⟨owner, inside, pid,
          sound.isHolder (carries stamp rfl) fair inside pid⟩
      · rw [List.mem_singleton.mp reported]
        trivial
  | signalling stamp =>
      cases turns
      exact right_signal sound (carries stamp rfl) fair event reported
  | waiting stamp =>
      cases turns
      split at reported
      · cases reported
      · cases reported
  | killing stamp =>
      cases turns
      exact right_signal sound (carries stamp rfl) fair event reported

/-- In a run whose steps are all fair, a probe that says who holds the singleton
names the daemon that has the lock, a signal reaches no other process, and
acquire is refused for no other reason. -/
theorem singleton_names_its_holder {left : Option Nat} {state next : State}
    {before seen : List Seen} {label : Label}
    (run : machine.Run Fair (.boot left) state before)
    (fair : Fair state label)
    (taken : machine.step state label = some (next, seen)) :
    ∀ event ∈ seen, Right state event := by
  have sound := sound_of_run run
  have met := met_of_run run
  intro event reported
  cases label with
  | spawn pid role =>
      simp only [machine] at taken
      split at taken
      · cases taken
        cases reported
      · cases taken
  | act id expired =>
      simp only [machine] at taken
      split at taken
      · rename_i process found
        obtain ⟨next, turns, same⟩ := Option.map_eq_some_iff.mp taken
        cases same
        have member := List.mem_of_find?_eq_some found
        have fair := fair process member (by simpa using List.find?_some found)
        have met := met process member
        unfold turn at turns
        split at turns
        · rename_i phase role
          rw [role] at fair met
          exact daemonTurn_right sound fair met turns event reported
        · rename_i purpose phase role
          rw [role] at fair
          exact cliTurn_right sound member role fair turns event reported
        · cases turns
      · cases taken
  | leave id =>
      obtain ⟨_, _, same⟩ := Option.map_eq_some_iff.mp taken
      cases same
      cases reported
  | exit id =>
      simp only [machine] at taken
      split at taken
      · split at taken
        · cases taken
          cases reported
        · cases taken
      · cases taken

/-! A stop that finds the daemon, and three ways to take another process for it:
the pid of an earlier daemon has gone to an unrelated process. -/

def starts (pid id : Nat) : List Label :=
  [.spawn pid (.daemon .starting), .act id false, .act id false,
    .act id false, .act id false]

def leavesPid : List Label :=
  starts 7 1 ++ [.leave 1, .exit 1, .spawn 7 .other]

/-- The next daemon has the lock and has not yet emptied the file. -/
def locksAgain : List Label :=
  leavesPid ++ [.spawn 9 (.daemon .starting), .act 3 false, .act 3 false,
    .spawn 11 (.cli .stop .starting), .act 4 false, .act 4 false, .act 4 false]

/-- A probe has the lock while a daemon asks for it. -/
def probeLocks : List Label :=
  leavesPid ++ [.spawn 11 (.cli .look .starting), .act 3 false, .act 3 false,
    .spawn 9 (.daemon .starting), .act 4 false, .act 4 false, .act 4 false]

def reports (event : Seen) (right : Bool) (label : Label) (state : State) :
    Bool :=
  (machine.step state label).any fun result =>
    result.2.contains event && decide (Right state event) = right

theorem reports_elim {event : Seen} {right : Bool} {label : Label}
    {state : State} (reported : reports event right label state = true) :
    ∃ next seen, machine.step state label = some (next, seen) ∧
      event ∈ seen ∧ decide (Right state event) = right := by
  obtain ⟨⟨next, seen⟩, taken, holds⟩ := Option.any_eq_true _ _ |>.mp reported
  rw [Bool.and_eq_true, List.contains_iff_mem, decide_eq_true_eq] at holds
  exact ⟨next, seen, taken, holds⟩

theorem singleton_names_its_holder_stop :
    ∃ state next before seen, machine.Run Fair (.boot none) state before ∧
      machine.step state (.act 2 false) = some (next, seen) ∧
      Seen.probed (.held 7) ∈ seen ∧ ∀ event ∈ seen, Right state event := by
  have ⟨state, before, run, checked⟩ := Machine.exec_check
    (show machine.execMeets Fair (.boot none)
        (starts 7 1 ++ [.spawn 11 (.cli .stop .starting), .act 2 false,
          .act 2 false, .act 2 false]) by decide)
    (fun result : State × List Seen =>
      decide (Fair result.1 (.act 2 false)) &&
        reports (.probed (.held 7)) true (.act 2 false) result.1)
    (by decide)
  rw [Bool.and_eq_true] at checked
  obtain ⟨next, seen, taken, named, _⟩ := reports_elim checked.2
  exact ⟨state, next, before, seen, run, taken, named,
    singleton_names_its_holder run (of_decide_eq_true checked.1) taken⟩

/-- Some run reports this, and it is not so. -/
def Misreports (event : Seen) : Prop :=
  ∃ state before label next seen,
    machine.Run (fun _ _ => True) (.boot none) state before ∧
      machine.step state label = some (next, seen) ∧ event ∈ seen ∧
      ¬ Right state event

theorem misreports_of_exec {event : Seen} {labels : List Label} {label : Label}
    (passes : (machine.exec (.boot none) labels).any (fun result =>
      reports event false label result.1) = true) : Misreports event := by
  have ⟨state, before, run, checked⟩ := Machine.exec_check
    (machine.execMeets_true (.boot none) labels)
    (fun result : State × List Seen => reports event false label result.1)
    passes
  obtain ⟨next, seen, taken, named, wrong⟩ := reports_elim checked
  exact ⟨state, before, label, next, seen, run, taken, named,
    of_decide_eq_false wrong⟩

/-- A probe names an unrelated process, stop signals it, and acquire takes a
probe for a daemon. -/
theorem singleton_takes_others_for_the_daemon :
    Misreports (.probed (.held 7)) ∧ Misreports (.signalled 2) ∧
      Misreports (.alreadyHeld 7 false) := by
  refine ⟨?_, ?_, ?_⟩
  · exact @misreports_of_exec _ locksAgain (.act 4 false) (by decide)
  · exact @misreports_of_exec _ (locksAgain ++ [.act 4 false]) (.act 4 false)
      (by decide)
  · exact @misreports_of_exec _ probeLocks (.act 4 false) (by decide)

end Bowerbird.Daemon.Singleton
