import Bowerbird.Commands.Auth
import Mathlib.Tactic.IntervalCases

namespace Bowerbird.Commands.Auth

open Foundation SecretStore Api.Token

/-! Daemons and command lines that share a keychain.  A daemon that finds it
empty puts a token there; a command line only reads.  A daemon that is built with
the mock keychain, and told to use it, has one of its own. -/

inductive Resolver where
  | daemon (mockKeyring : Bool) (env : TokenEnv) (fresh : String)
  | commandLine (env : TokenEnv)
  deriving Repr, DecidableEq

/-- What a program ended with; `backend` is the keychain that the daemon used. -/
inductive Resolution where
  | daemon (backend : KeyringBackend)
      (result : Except Api.Token.TokenError (String × Api.Token.TokenSource))
  | commandLine (result : Except TokenError (String × TokenSource))

/-- The token of the system's keychain that a resolution handed out. -/
def Resolution.keychain? : Resolution → Option String
  | .daemon .real (.ok (token, .keychain _)) => some token
  | .commandLine (.ok (token, .keychain)) => some token
  | _ => none

section Programs

variable (refusalText : Refusal → String)
variable (readToml : String → Except String (Option String))
variable (notFoundText : String)

def Resolver.program : Resolver → Resolving Resolution
  | .daemon mockKeyring env fresh => do
      return .daemon (Api.Token.installKeyringBackend mockKeyring env)
        (← loadOrGenerateWithEnv mockKeyring refusalText readToml env fresh)
  | .commandLine env => do
      return .commandLine
        (← resolveTokenForCli refusalText readToml notFoundText env)

variable {refusalText readToml notFoundText}

theorem write_disciplined (fresh : String) :
    Disciplined Except.toOption (keychainWriteGenerated fresh) := by
  have failed (refusal : Refusal) :
      Idle Except.toOption (.done (.error refusal) : Resolving (Except Refusal String)) :=
    rfl
  rintro (refusal | _)
  · exact (failed refusal).follows
  · refine ask_follows (fun generating => .inl ⟨rfl, generating⟩) ?_
    rintro (refusal | _)
    · exact (failed refusal).follows
    · refine ask_follows (fun generating => False.elim generating) ?_
      rintro (refusal | readback)
      · exact (failed refusal).follows
      · refine done_follows ?_
        intro secret rests
        unfold readBack at rests
        split at rests
        · cases rests
        · rename_i same
          cases rests
          exact not_not.mp same

/-- The token that the system's keychain gave or took. -/
def kept : KeyringBackend → Except String (String × Bool) → Option String
  | .real, .ok (token, _) => some token
  | _, _ => none

theorem keychainStep_disciplined (mockKeyring : Bool) (env : TokenEnv)
    (fresh : String) :
    Disciplined (kept (Api.Token.installKeyringBackend mockKeyring env))
      (Api.Token.keychainStep mockKeyring refusalText env fresh) := by
  have failed (detail : String) :
      Idle (kept .real) (.done (.error detail) : Resolving _) :=
    rfl
  unfold Api.Token.keychainStep
  cases Api.Token.installKeyringBackend mockKeyring env with
  | disabled | mock => trivial
  | real =>
      rintro (refusal | _)
      · exact (failed _).follows
      · refine ask_follows (fun generating => False.elim generating) ?_
        rintro ((_ | text) | token)
        · refine ask_follows (fun _ => .inr trivial) ((write_disciplined fresh).bind ?_)
          rintro (refusal | token)
          · exact .inl rfl
          · exact .inr ⟨_, rfl, rfl⟩
        · exact (failed _).follows
        · refine done_follows ?_
          rintro secret rests
          cases rests
          rfl

theorem idle_daemon (backend : KeyringBackend) (env : TokenEnv) (detail : String) :
    Idle (fun result => (Resolution.daemon backend result).keychain?)
      (Api.Token.configStep readToml env detail) := by
  have read : Idle (fun _ => none)
      (Api.Token.readConfigToken readToml (configPath env)) := by
    intro answer
    rcases answer with (_ | _) | text <;> rfl
  refine read.bind ?_
  intro result _
  cases backend <;> cases result <;> rfl

theorem idle_commandLine (env : TokenEnv) (detail : String) :
    Idle (fun result => (Resolution.commandLine result).keychain?)
      (configStep readToml notFoundText env detail) := by
  have read : Idle (fun _ => none) (readConfigToken readToml notFoundText env) := by
    intro answer
    cases answer with
    | false => rfl
    | true =>
        intro answer
        cases answer <;> rfl
  refine read.bind ?_
  intro result _
  cases result <;> rfl

theorem commandLineStep_disciplined (env : TokenEnv) :
    Disciplined Except.toOption (keychainStep refusalText env) := by
  have failed (detail : String) :
      Idle Except.toOption (.done (.error detail) : Resolving (Except String String)) :=
    rfl
  unfold keychainStep
  split
  · trivial
  · trivial
  · rintro (refusal | _)
    · exact (failed _).follows
    · refine ask_follows (fun generating => False.elim generating) ?_
      rintro ((_ | text) | token)
      · exact (failed _).follows
      · exact (failed _).follows
      · refine done_follows ?_
        intro secret rests
        cases rests
        rfl

theorem keychainStep_begins (mockKeyring : Bool) (env : TokenEnv) (fresh : String) :
    Begins (kept (Api.Token.installKeyringBackend mockKeyring env))
      (Api.Token.keychainStep mockKeyring refusalText env fresh) := by
  unfold Api.Token.keychainStep
  cases Api.Token.installKeyringBackend mockKeyring env with
  | disabled | mock => exact ⟨id, fun result finished => by cases finished; rfl⟩
  | real => exact ⟨id, fun result finished => by cases finished⟩

theorem commandLineStep_begins (env : TokenEnv) :
    Begins Except.toOption (keychainStep refusalText env) := by
  unfold keychainStep
  cases installKeyringBackend env with
  | disabled | mock => exact ⟨id, fun result finished => by cases finished; rfl⟩
  | real => exact ⟨id, fun result finished => by cases finished⟩

/-- What a daemon hands out from the keychain is what its step there kept. -/
theorem keychain?_daemon (backend : KeyringBackend) (found : String × Bool) :
    (Resolution.daemon backend (.ok (found.1, .keychain found.2))).keychain? =
      kept backend (.ok found) := by
  cases backend <;> rfl

theorem keychain?_env (backend : KeyringBackend) (token : String) :
    (Resolution.daemon backend (.ok (token, .env))).keychain? = none := by
  cases backend <;> rfl

theorem daemon_begins (mockKeyring : Bool) (env : TokenEnv) (fresh : String) :
    Begins (fun result => (Resolution.daemon
        (Api.Token.installKeyringBackend mockKeyring env) result).keychain?)
      (loadOrGenerateWithEnv mockKeyring refusalText readToml env fresh) := by
  unfold loadOrGenerateWithEnv
  split
  · refine ⟨id, fun result finished => ?_⟩
    cases finished
    exact keychain?_env _ _
  · refine (keychainStep_begins mockKeyring env fresh).bind ?_ ?_
    · intro result
      cases result <;> exact id
    · rintro (detail | found) final finished handed
      · cases finished
      · cases finished
        exact (keychain?_daemon _ found).trans handed

theorem commandLine_begins (env : TokenEnv) :
    Begins (fun result => (Resolution.commandLine result).keychain?)
      (resolveTokenForCli refusalText readToml notFoundText env) := by
  unfold resolveTokenForCli
  split
  · exact ⟨id, fun result finished => by cases finished; rfl⟩
  · refine (commandLineStep_begins env).bind ?_ ?_
    · intro result
      cases result <;> exact id
    · rintro (detail | token) final finished handed
      · cases finished
      · cases handed

theorem program_begins (resolver : Resolver) :
    Begins Resolution.keychain?
      (resolver.program refusalText readToml notFoundText) := by
  cases resolver with
  | daemon mockKeyring env fresh =>
      refine (daemon_begins mockKeyring env fresh).bind (fun _ => id) ?_
      intro result final finished handed
      cases finished
      exact handed
  | commandLine env =>
      refine (commandLine_begins env).bind (fun _ => id) ?_
      intro result final finished handed
      cases finished
      exact handed

theorem daemon_disciplined (mockKeyring : Bool) (env : TokenEnv) (fresh : String) :
    Disciplined (fun result => (Resolution.daemon
        (Api.Token.installKeyringBackend mockKeyring env) result).keychain?)
      (loadOrGenerateWithEnv mockKeyring refusalText readToml env fresh) := by
  unfold loadOrGenerateWithEnv
  split
  · trivial
  · refine (keychainStep_disciplined mockKeyring env fresh).bind ?_
    intro result
    cases result with
    | error detail => exact .inl (idle_daemon _ env detail)
    | ok found => exact .inr ⟨_, rfl, keychain?_daemon _ found⟩

theorem commandLine_disciplined (env : TokenEnv) :
    Disciplined (fun result => (Resolution.commandLine result).keychain?)
      (resolveTokenForCli refusalText readToml notFoundText env) := by
  unfold resolveTokenForCli
  split
  · trivial
  · refine (commandLineStep_disciplined env).bind ?_
    intro result
    cases result with
    | error detail => exact .inl (idle_commandLine env detail)
    | ok found => exact .inr ⟨_, rfl, rfl⟩

theorem program_disciplined (resolver : Resolver) :
    Disciplined Resolution.keychain?
      (resolver.program refusalText readToml notFoundText) := by
  cases resolver with
  | daemon mockKeyring env fresh =>
      exact (daemon_disciplined mockKeyring env fresh).bind fun _ => .inr ⟨_, rfl, rfl⟩
  | commandLine env =>
      exact (commandLine_disciplined env).bind fun _ => .inr ⟨_, rfl, rfl⟩

end Programs

/-! The runs: daemons and command lines started on one keychain, whatever it
holds, taking turns in any order, with any failures. -/

section Runs

variable {Id : Type} [DecidableEq Id]
variable (refusalText : Refusal → String)
variable (readToml : String → Except String (Option String))
variable (notFoundText : String)

abbrev Keychain : Type :=
  SecretStore String String String

def started (resolvers : Id → Resolver) (keychain : Keychain) :
    Sharing Id String String String Resolution :=
  { state := keychain
    run := fun id => (resolvers id).program refusalText readToml notFoundText }

variable {refusalText readToml notFoundText}

/-- While no two daemons find the keychain empty at the same time, every token that
was ever handed out from the keychain is the one that is there.  And whatever else
has happened: from any moment on at which a token is there and nobody is about to
write, that token stays, and everyone who gets one from the keychain later gets
that one. -/
theorem keychain_token_shared (resolvers : Id → Resolver) (keychain : Keychain)
    (turns : List (Id × Choice)) :
    let pool := started refusalText readToml notFoundText resolvers keychain
    ((∀ front, front <+: turns → (pool.after front).Serial) →
      ∀ id resolution token, (pool.after turns).run id = .done resolution →
        resolution.keychain? = some token →
        (pool.after turns).state.entry = some token) ∧
    (∀ secret, (pool.after turns).state.entry = some secret →
      (∀ id, ¬ Generating ((pool.after turns).run id)) →
      ∀ later,
        (pool.after (turns ++ later)).state.entry = some secret ∧
        ∀ id resolution token,
          (∀ earlier, (pool.after turns).run id ≠ .done earlier) →
          (pool.after (turns ++ later)).run id = .done resolution →
          resolution.keychain? = some token → token = secret) := by
  intro pool
  have disciplined : ∀ id, Disciplined Resolution.keychain? (pool.run id) :=
    fun id => program_disciplined (resolvers id)
  have begins : ∀ id, Begins Resolution.keychain? (pool.run id) :=
    fun id => program_begins (resolvers id)
  constructor
  · intro serial id resolution token finished handed
    have agreeing : Sharing.Agreeing Resolution.keychain? pool := {
      disciplined
      vacant := fun id generating => absurd generating (begins id).1
      rested := by
        intro id resolution token finished handed
        rw [(begins id).2 resolution finished] at handed
        cases handed
    }
    exact (agreeing.after serial).rested id resolution token finished handed
  · intro secret there nobody later
    have settled : Sharing.Settled Resolution.keychain? secret
        (fun id => ∀ earlier, (pool.after turns).run id ≠ .done earlier)
        (pool.after turns) := {
      disciplined := Sharing.disciplined_after disciplined turns
      quiet := nobody
      entry := there
      rested := fun id resolution token running finished =>
        absurd finished (running resolution)
    }
    rw [Sharing.after_append]
    exact ⟨(settled.after later).entry, (settled.after later).rested⟩

def unset : TokenEnv :=
  { token := none, keyringBackend := none, dataDir := none, home := none }

/-- One daemon, as it is built by default, and one command line. -/
def pair (fresh : String) : Bool → Resolver
  | false => .daemon true unset fresh
  | true => .commandLine unset

def vacant : Keychain :=
  { entry := none, file := fun _ => none }

def minting : List (Bool × Choice) :=
  List.replicate 5 (false, .quiet)

def reading : List (Bool × Choice) :=
  List.replicate 2 (true, .quiet)

theorem keychain_token_shared_fresh :
    let pool := started (fun _ => "") (fun _ => .ok none) "" (pair "new") vacant
    (pool.after (minting ++ reading)).state.entry = some "new" ∧
      ∀ resolution token,
        (pool.after (minting ++ reading)).run true = .done resolution →
        resolution.keychain? = some token → token = "new" := by
  intro pool
  have serial : ∀ count ≤ 7,
      (pool.after ((minting ++ reading).take count)).Serial := by
    intro count few id other generates generates'
    interval_cases count <;> cases id <;> cases other <;>
      first | rfl | exact False.elim generates | exact False.elim generates'
  constructor
  · refine (keychain_token_shared (pair "new") vacant (minting ++ reading)).1 ?_
      true (.commandLine (.ok ("new", .keychain))) "new" rfl rfl
    intro front begins
    rw [List.prefix_iff_eq_take.mp begins]
    exact serial _ begins.length_le
  · intro resolution token
    refine ((keychain_token_shared (pair "new") vacant minting).2 "new" rfl ?_
      reading).2 true resolution token ?_
    · rintro (_ | _) <;> exact False.elim
    · intro earlier finished
      cases finished

/-- Two daemons that both find the keychain empty end with different tokens. -/
example :
    let both := fun id : Bool => pair (if id then "second" else "first") false
    let pool := started (fun _ => "") (fun _ => .ok none) "" both vacant
    let turns := [false, false, true, true, false, false, false, true, true, true]
    let last := pool.after (turns.map fun id => (id, .quiet))
    last.run false = .done (.daemon .real (.ok ("first", .keychain true))) ∧
      last.run true = .done (.daemon .real (.ok ("second", .keychain true))) :=
  ⟨rfl, rfl⟩

end Runs

end Bowerbird.Commands.Auth
