import Bowerbird.Foundation.Interference

namespace Bowerbird.Foundation

/-! A store that holds at most one secret, shared by programs that read it and,
where they find nothing, put a secret of their own there.  Beside it are files
that nobody changes. -/

structure SecretStore (Secret Path Text : Type) where
  entry : Option Secret
  file : Path → Option Text

namespace SecretStore

variable {Secret Path Text : Type}

inductive Refusal where
  | noEntry
  | other (text : String)
  deriving Repr, DecidableEq

inductive Unreadable where
  | notFound
  | other (text : String)
  deriving Repr, DecidableEq

inductive Call (Secret Path : Type) where
  | openEntry
  | get
  | set (secret : Secret)
  | fileExists (path : Path)
  | readFile (path : Path)
  deriving Repr, DecidableEq

@[reducible] def Call.Answer (Text : Type) : Call Secret Path → Type
  | .openEntry | .set _ => Except Refusal Unit
  | .get => Except Refusal Secret
  | .fileExists _ => Bool
  | .readFile _ => Except Unreadable Text

/-- How a call fails, if it does, and whether what it writes gets to where the
reads look. -/
structure Choice where
  fails : Option String
  lands : Bool
  deriving Repr, DecidableEq

/-- A call that goes well. -/
def Choice.quiet : Choice :=
  { fails := none, lands := true }

def handle (choice : Choice) :
    (call : Call Secret Path) → SecretStore Secret Path Text →
      call.Answer Text × SecretStore Secret Path Text
  | .openEntry, store =>
      (match choice.fails with
        | some text => .error (.other text)
        | none => .ok (), store)
  | .get, store =>
      (match choice.fails, store.entry with
        | some text, _ => .error (.other text)
        | none, none => .error .noEntry
        | none, some secret => .ok secret, store)
  | .set secret, store =>
      (match choice.fails with
        | some text => .error (.other text)
        | none => .ok (),
        if choice.lands then { store with entry := some secret } else store)
  | .fileExists path, store =>
      (choice.fails.isNone && (store.file path).isSome, store)
  | .readFile path, store =>
      (match choice.fails, store.file path with
        | some text, _ => .error (.other text)
        | none, none => .error .notFound
        | none, some text => .ok text, store)

section Handle

variable {store : SecretStore Secret Path Text} {choice : Choice}

theorem handle_get_ok {secret : Secret}
    (answer : (handle choice (.get : Call Secret Path) store).1 = .ok secret) :
    store.entry = some secret := by
  simp only [handle] at answer
  split at answer
  · cases answer
  · cases answer
  · rename_i found
    cases answer
    exact found

theorem handle_get_noEntry
    (answer : (handle choice (.get : Call Secret Path) store).1 =
      .error .noEntry) : store.entry = none := by
  simp only [handle] at answer
  split at answer
  · cases answer
  · rename_i vacant
    exact vacant
  · cases answer

theorem handle_readFile_ok {path : Path} {text : Text}
    (answer : (handle choice (.readFile path : Call Secret Path) store).1 =
      .ok text) : store.file path = some text := by
  simp only [handle] at answer
  split at answer
  · cases answer
  · cases answer
  · rename_i there
    cases answer
    exact there

/-- Only a write changes the entry, to what it writes. -/
theorem handle_entry (choice : Choice) (call : Call Secret Path)
    (store : SecretStore Secret Path Text) :
    (handle choice call store).2.entry = store.entry ∨
      ∃ secret, call = .set secret ∧
        (handle choice call store).2.entry = some secret := by
  cases call with
  | set secret =>
      simp only [handle]
      split
      · exact .inr ⟨secret, rfl, rfl⟩
      · exact .inl rfl
  | openEntry | get | fileExists path | readFile path => exact .inl rfl

theorem handle_file (choice : Choice) (call : Call Secret Path)
    (store : SecretStore Secret Path Text) :
    (handle choice call store).2.file = store.file := by
  cases call with
  | set secret =>
      simp only [handle]
      split <;> rfl
  | openEntry | get | fileExists path | readFile path => rfl

end Handle

/-! Programs that write only after a read that found nothing. -/

section Discipline

abbrev Using (Secret Path Text Result : Type) : Type :=
  Program (Call Secret Path) (Call.Answer Text) Result

variable {Result : Type}

/-- Nothing but the opening of the entry stands between the program and its
write. -/
def Generating : Using Secret Path Text Result → Prop
  | .ask (.set _) _ => True
  | .ask .openEntry resume => Generating (resume (.ok ()))
  | _ => False

/-- The answer of a read that found nothing. -/
def FindsNothing : (call : Call Secret Path) → call.Answer Text → Prop
  | .get, .error .noEntry => True
  | _, _ => False

/-- The answer of a read that found the secret. -/
def Finds (secret : Secret) : (call : Call Secret Path) → call.Answer Text → Prop
  | .get, .ok found => found = secret
  | _, _ => False

/-- `rests` says which secret of the store a result rests on.  A program begins
to write where a read has just found nothing, and ends with a secret where a read
has just found it. -/
def Disciplined (rests : Result → Option Secret) :
    Using Secret Path Text Result → Prop
  | .done _ => True
  | .ask call resume => ∀ answer,
      (Generating (resume answer) →
        call = .openEntry ∧
            Generating (.ask call resume : Using Secret Path Text Result) ∨
          FindsNothing call answer) ∧
      (∀ result secret, resume answer = .done result →
        rests result = some secret → Finds secret call answer) ∧
      Disciplined rests (resume answer)

/-- The program reads files alone, and its result rests on no secret. -/
def Idle (rests : Result → Option Secret) : Using Secret Path Text Result → Prop
  | .done result => rests result = none
  | .ask (.fileExists _) resume => ∀ answer, Idle rests (resume answer)
  | .ask (.readFile _) resume => ∀ answer, Idle rests (resume answer)
  | _ => False

section Idle

variable {rests : Result → Option Secret}
variable {program : Using Secret Path Text Result}

theorem Idle.not_generating (idle : Idle rests program) : ¬ Generating program := by
  intro generating
  cases program with
  | done result => cases generating
  | ask call resume =>
      cases call with
      | fileExists path | readFile path => cases generating
      | openEntry | get | set secret => cases idle

theorem Idle.rests_nothing {result : Result} (idle : Idle rests program)
    (finished : program = .done result) : rests result = none := by
  subst finished
  exact idle

theorem Idle.disciplined (idle : Idle rests program) :
    Disciplined rests program := by
  induction program with
  | done result => trivial
  | ask call resume induction =>
      intro answer
      have goesOn : Idle rests (resume answer) := by
        cases call with
        | fileExists path | readFile path => exact idle answer
        | openEntry | get | set secret => cases idle
      refine ⟨fun generating => absurd generating goesOn.not_generating, ?_,
        induction answer goesOn⟩
      intro result secret finished rests'
      rw [goesOn.rests_nothing finished] at rests'
      cases rests'

/-! What a disciplined program owes after an answer, by what it does next. -/

variable {generates : Prop} {finds : Secret → Prop}

theorem Idle.follows (idle : Idle rests program) :
    (Generating program → generates) ∧
      (∀ result secret, program = .done result →
        rests result = some secret → finds secret) ∧
      Disciplined rests program := by
  refine ⟨fun generating => absurd generating idle.not_generating, ?_,
    idle.disciplined⟩
  intro result secret finished rests'
  rw [idle.rests_nothing finished] at rests'
  cases rests'

theorem ask_follows {call : Call Secret Path}
    {resume : call.Answer Text → Using Secret Path Text Result}
    (may : Generating (.ask call resume : Using Secret Path Text Result) → generates)
    (disciplined : Disciplined rests (.ask call resume)) :
    (Generating (.ask call resume : Using Secret Path Text Result) → generates) ∧
      (∀ result secret, (.ask call resume : Using Secret Path Text Result) =
        .done result → rests result = some secret → finds secret) ∧
      Disciplined rests (.ask call resume) := by
  refine ⟨may, ?_, disciplined⟩
  intro result secret finished
  cases finished

theorem done_follows {result : Result}
    (found : ∀ secret, rests result = some secret → finds secret) :
    (Generating (.done result : Using Secret Path Text Result) → generates) ∧
      (∀ final secret, (.done result : Using Secret Path Text Result) =
        .done final → rests final = some secret → finds secret) ∧
      Disciplined rests (.done result : Using Secret Path Text Result) := by
  refine ⟨fun generating => False.elim generating, ?_, trivial⟩
  intro final secret finished
  cases finished
  exact found secret

/-- The rule of sequence: the result of the first part has rests of its own. -/
theorem Idle.bind {Before : Type} {before : Before → Option Secret}
    {program : Using Secret Path Text Before}
    {next : Before → Using Secret Path Text Result}
    (idle : Idle before program)
    (goesOn : ∀ result, before result = none → Idle rests (next result)) :
    Idle rests (program >>= next) := by
  induction program with
  | done result => exact goesOn result idle
  | ask call resume induction =>
      cases call with
      | fileExists path | readFile path =>
          intro answer
          exact induction answer (idle answer)
      | openEntry | get | set secret => cases idle

theorem Generating.of_bind {Before : Type}
    {program : Using Secret Path Text Before}
    {next : Before → Using Secret Path Text Result}
    (goesOn : ∀ result, ¬ Generating (next result))
    (generating : Generating (program >>= next)) : Generating program := by
  induction program with
  | done result => exact absurd generating (goesOn result)
  | ask call resume induction =>
      cases call with
      | openEntry => exact induction (.ok ()) generating
      | set secret => trivial
      | get | fileExists path | readFile path => cases generating

/-- The program is not about to write, and has not ended on a secret. -/
def Begins (rests : Result → Option Secret)
    (program : Using Secret Path Text Result) : Prop :=
  ¬ Generating program ∧
    ∀ result, program = .done result → rests result = none

theorem Begins.bind {Before : Type} {before : Before → Option Secret}
    {program : Using Secret Path Text Before}
    {next : Before → Using Secret Path Text Result}
    (begins : Begins before program)
    (quiet : ∀ result, ¬ Generating (next result))
    (goesOn : ∀ result final, next result = .done final →
      before result = none → rests final = none) :
    Begins rests (program >>= next) := by
  refine ⟨fun generating => begins.1 (Generating.of_bind quiet generating), ?_⟩
  intro final finished
  cases program with
  | done result => exact goesOn result final finished (begins.2 result rfl)
  | ask call resume => cases finished

theorem Generating.bind {Before : Type}
    {program : Using Secret Path Text Before}
    {next : Before → Using Secret Path Text Result}
    (generating : Generating program) : Generating (program >>= next) := by
  induction program with
  | done result => cases generating
  | ask call resume induction =>
      cases call with
      | openEntry => exact induction (.ok ()) generating
      | set secret => trivial
      | get | fileExists path | readFile path => cases generating

/-- The rule of sequence, where the second part reads files alone or hands on what
the first part has found. -/
theorem Disciplined.bind {Before : Type} {before : Before → Option Secret}
    {program : Using Secret Path Text Before}
    {next : Before → Using Secret Path Text Result}
    (disciplined : Disciplined before program)
    (goesOn : ∀ result, Idle rests (next result) ∨
      ∃ final, next result = .done final ∧ rests final = before result) :
    Disciplined rests (program >>= next) := by
  have quiet : ∀ result, ¬ Generating (next result) := by
    intro result generating
    rcases goesOn result with idle | ⟨final, finished, _⟩
    · exact idle.not_generating generating
    · rw [finished] at generating
      cases generating
  induction program with
  | done result =>
      rcases goesOn result with idle | ⟨final, finished, _⟩
      · exact idle.disciplined
      · rw [Program.done_bind, finished]
        trivial
  | ask call resume induction =>
      intro answer
      obtain ⟨generates, ends, later⟩ := disciplined answer
      refine ⟨?_, ?_, induction answer later⟩
      · intro generating
        rcases generates (Generating.of_bind quiet generating) with
          ⟨opens, before'⟩ | vacant
        · exact .inl ⟨opens, Generating.bind before'⟩
        · exact .inr vacant
      · intro final secret finished rests'
        replace finished : (resume answer >>= next) = .done final := finished
        cases resumed : resume answer with
        | ask call' resume' =>
            rw [resumed] at finished
            cases finished
        | done result =>
            rw [resumed] at finished
            have same : next result = .done final := finished
            rcases goesOn result with idle | ⟨final', finished', handed⟩
            · rw [idle.rests_nothing same] at rests'
              cases rests'
            · rw [same] at finished'
              cases finished'
              exact ends result secret resumed (handed.symm.trans rests')

end Idle

theorem entry_of_finds {secret : Secret} {store : SecretStore Secret Path Text}
    {choice : Choice} {call : Call Secret Path}
    (finds : Finds secret call (handle choice call store).1) :
    store.entry = some secret ∧
      (handle choice call store).2.entry = some secret := by
  cases call with
  | get =>
      cases answer : (handle choice (.get : Call Secret Path) store).1 with
      | error refusal => rw [answer] at finds; cases finds
      | ok found =>
          rw [answer] at finds
          have same : found = secret := finds
          subst same
          exact ⟨handle_get_ok answer, handle_get_ok answer⟩
  | openEntry | set secret | fileExists path | readFile path => cases finds

theorem entry_of_findsNothing {store : SecretStore Secret Path Text}
    {choice : Choice} {call : Call Secret Path}
    (vacant : FindsNothing call (handle choice call store).1) :
    store.entry = none ∧ (handle choice call store).2.entry = none := by
  cases call with
  | get =>
      cases answer : (handle choice (.get : Call Secret Path) store).1 with
      | error refusal =>
          rw [answer] at vacant
          cases refusal with
          | noEntry =>
              exact ⟨handle_get_noEntry answer, handle_get_noEntry answer⟩
          | other text => cases vacant
      | ok found => rw [answer] at vacant; cases vacant
  | openEntry | set secret | fileExists path | readFile path => cases vacant

/-! One such program alone. -/

theorem ends_file {program : Using Secret Path Text Result}
    {store final : SecretStore Secret Path Text} {result : Result}
    (ended : program.Ends handle store result final) :
    final.file = store.file := by
  induction ended with
  | done => rfl
  | ask choice _ induction => exact induction.trans (handle_file choice _ _)

theorem Disciplined.entry_of_ends {rests : Result → Option Secret}
    {program : Using Secret Path Text Result}
    {store final : SecretStore Secret Path Text} {result : Result}
    {secret : Secret} (disciplined : Disciplined rests program)
    (begins : Begins rests program)
    (ended : program.Ends handle store result final)
    (rests' : rests result = some secret) : final.entry = some secret := by
  have running : ∀ value, program = .done value → rests value = some secret →
      store.entry = some secret := by
    intro value finished handed
    rw [begins.2 value finished] at handed
    cases handed
  clear begins
  induction ended with
  | done => exact running _ rfl rests'
  | ask choice goesOn induction =>
      obtain ⟨_, ends, later⟩ := disciplined _
      refine induction later rests' ?_
      intro value finished handed
      exact (entry_of_finds (ends value secret finished handed)).2

end Discipline

/-! Many programs on one store. -/

section Pools

variable {Id Result : Type} [DecidableEq Id]

abbrev Sharing (Id Secret Path Text Result : Type) : Type :=
  Pool Id (Call Secret Path) (Call.Answer Text) Result
    (SecretStore Secret Path Text)

namespace Sharing

variable (pool : Sharing Id Secret Path Text Result)

/-- One program makes its turn; nobody else touches the store. -/
def after (turns : List (Id × Choice)) : Sharing Id Secret Path Text Result :=
  Pool.after (fun _ => handle) (fun (act : Empty) _ => act.elim) pool
    (turns.map fun turn => .advance turn.1 turn.2)

/-- No two programs are about to write. -/
def Serial : Prop :=
  ∀ id other, Generating (pool.run id) → Generating (pool.run other) → id = other

variable {pool} {rests : Result → Option Secret} {id : Id} {choice : Choice}

theorem after_snoc (turns : List (Id × Choice)) (turn : Id × Choice) :
    after pool (turns ++ [turn]) =
      (after pool turns).step (fun _ => handle)
        (fun (act : Empty) _ => act.elim) (.advance turn.1 turn.2) := by
  rw [after, List.map_append, List.map_singleton, Pool.after_snoc]
  rfl

theorem after_append (turns later : List (Id × Choice)) :
    after pool (turns ++ later) = after (after pool turns) later := by
  rw [after, List.map_append, Pool.after, List.foldl_append]
  rfl

/-- What one turn does: nothing, or one call of one program. -/
theorem step_cases (pool : Sharing Id Secret Path Text Result) (id : Id)
    (choice : Choice) :
    pool.step (fun _ => handle) (fun (act : Empty) _ => act.elim)
        (.advance id choice) = pool ∨
    ∃ call resume, pool.run id = .ask call resume ∧
      pool.step (fun _ => handle) (fun (act : Empty) _ => act.elim)
          (.advance id choice) =
        { state := (handle choice call pool.state).2
          run := Function.update pool.run id
            (resume (handle choice call pool.state).1) } := by
  simp only [Pool.step]
  cases running : pool.run id with
  | done result => exact .inl rfl
  | ask call resume => exact .inr ⟨call, resume, rfl, rfl⟩

variable (rests) in
/-- Nobody is about to write over an entry, and what a program has ended with is
still the entry. -/
structure Agreeing (pool : Sharing Id Secret Path Text Result) : Prop where
  disciplined : ∀ id, Disciplined rests (pool.run id)
  vacant : ∀ id, Generating (pool.run id) → pool.state.entry = none
  rested : ∀ id result secret, pool.run id = .done result →
    rests result = some secret → pool.state.entry = some secret

theorem Agreeing.step (agreeing : Agreeing rests pool) (serial : pool.Serial)
    (id : Id) (choice : Choice) :
    Agreeing rests (pool.step (fun _ => handle)
      (fun (act : Empty) _ => act.elim) (.advance id choice)) := by
  rcases step_cases pool id choice with same | ⟨call, resume, running, moved⟩
  · rw [same]
    exact agreeing
  · have own := agreeing.disciplined id
    rw [running] at own
    obtain ⟨generates, ends, goesOn⟩ := own (handle choice call pool.state).1
    have entry := handle_entry choice call pool.state
    have writes : ∀ secret, call = .set secret → Generating (pool.run id) := by
      rintro secret rfl
      rw [running]
      trivial
    rw [moved]
    constructor
    · intro other
      by_cases same : other = id
      · subst same
        simp only [Function.update_self]
        exact goesOn
      · simp only [Function.update_of_ne same]
        exact agreeing.disciplined other
    · intro other generating
      by_cases same : other = id
      · subst same
        simp only [Function.update_self] at generating
        rcases generates generating with ⟨rfl, before⟩ | vacant
        · rw [← running] at before
          exact agreeing.vacant other before
        · exact (entry_of_findsNothing vacant).2
      · simp only [Function.update_of_ne same] at generating
        rcases entry with kept | ⟨secret, written, _⟩
        · exact kept.trans (agreeing.vacant other generating)
        · exact absurd (serial other id generating (writes secret written)) same
    · intro other result secret finished rests'
      by_cases same : other = id
      · subst same
        simp only [Function.update_self] at finished
        exact (entry_of_finds (ends result secret finished rests')).2
      · simp only [Function.update_of_ne same] at finished
        have held := agreeing.rested other result secret finished rests'
        rcases entry with kept | ⟨_, written, _⟩
        · exact kept.trans held
        · rw [agreeing.vacant id (writes _ written)] at held
          cases held

/-- Programs that never write at the same time agree on what they took from the
store, for good. -/
theorem Agreeing.after (agreeing : Agreeing rests pool)
    {turns : List (Id × Choice)}
    (serial : ∀ front, front <+: turns → (after pool front).Serial) :
    Agreeing rests (after pool turns) := by
  induction turns using List.reverseRecOn with
  | nil => exact agreeing
  | append_singleton turns turn induction =>
      rw [after_snoc]
      apply Agreeing.step
      · apply induction
        intro front begins
        exact serial front (begins.trans (List.prefix_append _ _))
      · exact serial turns (List.prefix_append _ _)

variable (rests) in
/-- The secret is there for good: nobody is about to write. -/
structure Settled (secret : Secret) (open' : Id → Prop)
    (pool : Sharing Id Secret Path Text Result) : Prop where
  disciplined : ∀ id, Disciplined rests (pool.run id)
  quiet : ∀ id, ¬ Generating (pool.run id)
  entry : pool.state.entry = some secret
  rested : ∀ id result found, open' id → pool.run id = .done result →
    rests result = some found → found = secret

theorem Settled.step {secret : Secret} {open' : Id → Prop}
    (settled : Settled rests secret open' pool) (id : Id) (choice : Choice) :
    Settled rests secret open' (pool.step (fun _ => handle)
      (fun (act : Empty) _ => act.elim) (.advance id choice)) := by
  rcases step_cases pool id choice with same | ⟨call, resume, running, moved⟩
  · rw [same]
    exact settled
  · have own := settled.disciplined id
    rw [running] at own
    obtain ⟨generates, ends, goesOn⟩ := own (handle choice call pool.state).1
    have kept : (handle choice call pool.state).2.entry = some secret := by
      rcases handle_entry choice call pool.state with
        kept | ⟨_, rfl, _⟩
      · exact kept.trans settled.entry
      · have writes := settled.quiet id
        rw [running] at writes
        exact absurd trivial writes
    rw [moved]
    constructor
    · intro other
      by_cases same : other = id
      · subst same
        simp only [Function.update_self]
        exact goesOn
      · simp only [Function.update_of_ne same]
        exact settled.disciplined other
    · intro other
      by_cases same : other = id
      · subst same
        simp only [Function.update_self]
        intro generating
        rcases generates generating with ⟨_, before⟩ | vacant
        · rw [← running] at before
          exact settled.quiet other before
        · have none' := (entry_of_findsNothing vacant).1
          rw [settled.entry] at none'
          cases none'
      · simp only [Function.update_of_ne same]
        exact settled.quiet other
    · exact kept
    · intro other result found isOpen finished rests'
      by_cases same : other = id
      · subst same
        simp only [Function.update_self] at finished
        have there := (entry_of_finds (ends result found finished rests')).1
        rw [settled.entry] at there
        exact (Option.some.inj there).symm
      · simp only [Function.update_of_ne same] at finished
        exact settled.rested other result found isOpen finished rests'

theorem Settled.after {secret : Secret} {open' : Id → Prop}
    (settled : Settled rests secret open' pool) (turns : List (Id × Choice)) :
    Settled rests secret open' (after pool turns) := by
  induction turns using List.reverseRecOn with
  | nil => exact settled
  | append_singleton turns turn induction =>
      rw [after_snoc]
      exact induction.step turn.1 turn.2

theorem disciplined_after (disciplined : ∀ id, Disciplined rests (pool.run id))
    (turns : List (Id × Choice)) (id : Id) :
    Disciplined rests ((after pool turns).run id) := by
  induction turns using List.reverseRecOn generalizing id with
  | nil => exact disciplined id
  | append_singleton turns turn induction =>
      rw [after_snoc]
      rcases step_cases (after pool turns) turn.1 turn.2 with
        same | ⟨call, resume, running, moved⟩
      · rw [same]
        exact induction id
      · rw [moved]
        by_cases same : id = turn.1
        · subst same
          simp only [Function.update_self]
          have own := induction turn.1
          rw [running] at own
          exact (own _).2.2
        · simp only [Function.update_of_ne same]
          exact induction id

end Sharing

end Pools

end SecretStore

end Bowerbird.Foundation
