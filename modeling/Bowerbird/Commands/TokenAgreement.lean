import Bowerbird.Commands.TokenSharing

namespace Bowerbird.Commands.Auth

open Foundation SecretStore Api.Token

/-! A daemon has started, and a command line in the same environment looks for its
token: whether it gets that one, and from where. -/

section Agreement

variable {refusalText : Refusal → String}
variable {readToml : String → Except String (Option String)}
variable {notFoundText fresh token : String} {mockKeyring : Bool} {env : TokenEnv}
variable {keychain final : Keychain}

/-! What a daemon with a token leaves behind. -/

theorem keychainStep_real {found : String × Bool}
    (shared : Api.Token.installKeyringBackend mockKeyring env ≠ .mock)
    (ended : (Api.Token.keychainStep mockKeyring refusalText env fresh).Ends handle
      keychain (.ok found) final) :
    Api.Token.installKeyringBackend mockKeyring env = .real := by
  unfold Api.Token.keychainStep at ended
  cases backend : Api.Token.installKeyringBackend mockKeyring env with
  | real => rfl
  | mock => exact absurd backend shared
  | disabled =>
      rw [backend] at ended
      obtain ⟨same, _⟩ := ended.of_done
      cases same

/-- The token that a config file holds, if it holds one. -/
def tokenIn (readToml : String → Except String (Option String)) (text : String) :
    Option String :=
  match readToml text with
  | .ok field => nonEmpty field
  | .error _ => none

theorem daemon_tokenField {path text : String} :
    Api.Token.tokenField readToml path text = .ok token ↔
      tokenIn readToml text = some token := by
  unfold Api.Token.tokenField tokenIn
  cases readToml text with
  | error error => simp
  | ok field => cases found : nonEmpty field <;> simp [found]

theorem commandLine_tokenField {path text : String} :
    tokenField readToml path text = .ok token ↔
      tokenIn readToml text = some token := by
  unfold tokenField tokenIn
  cases readToml text with
  | error error => simp
  | ok field => cases found : nonEmpty field <;> simp [found]

theorem readConfigToken_ends {path : String}
    (ended : (Api.Token.readConfigToken readToml path).Ends handle keychain
      (.ok token) final) :
    ∃ text, keychain.file path = some text ∧
      tokenIn readToml text = some token := by
  obtain ⟨choice, ended⟩ := Program.Ends.of_ask ended
  cases answer : (handle choice (.readFile path : Call String String) keychain).1 with
  | ok text =>
      rw [answer] at ended
      obtain ⟨found, _⟩ := Program.Ends.of_done ended
      exact ⟨text, handle_readFile_ok answer, daemon_tokenField.mp found⟩
  | error unreadable =>
      rw [answer] at ended
      cases unreadable with
      | notFound | other text =>
          obtain ⟨found, _⟩ := Program.Ends.of_done ended
          cases found

theorem configStep_ends {detail : String} {source : Api.Token.TokenSource}
    (ended : (Api.Token.configStep readToml env detail).Ends handle keychain
      (.ok (token, source)) final) :
    source = .configFile ∧ ∃ text, keychain.file (configPath env) = some text ∧
      tokenIn readToml text = some token := by
  obtain ⟨found, between, read, ended⟩ := Program.Ends.of_bind ended
  cases found with
  | ok value =>
      obtain ⟨same, _⟩ := Program.Ends.of_done ended
      cases same
      exact ⟨rfl, readConfigToken_ends read⟩
  | error reason =>
      obtain ⟨same, _⟩ := Program.Ends.of_done ended
      cases same

/-- Where the token of a daemon came from, and that it is still there. -/
inductive Provided (readToml : String → Except String (Option String))
    (mockKeyring : Bool) (env : TokenEnv) (token : String) (final : Keychain) :
    Api.Token.TokenSource → Prop
  | env (given : nonEmpty env.token = some token) :
      Provided readToml mockKeyring env token final .env
  | keychain {generated : Bool} (unset : nonEmpty env.token = none)
      (real : Api.Token.installKeyringBackend mockKeyring env = .real)
      (entry : final.entry = some token) :
      Provided readToml mockKeyring env token final (.keychain generated)
  | configFile {text : String} (unset : nonEmpty env.token = none)
      (file : final.file (configPath env) = some text)
      (held : tokenIn readToml text = some token) :
      Provided readToml mockKeyring env token final .configFile

/-- The keychain that the daemon asked, if it asked one, was the system's own. -/
def AsksSystem (mockKeyring : Bool) (env : TokenEnv) : Prop :=
  nonEmpty env.token = none →
    Api.Token.installKeyringBackend mockKeyring env ≠ .mock

theorem daemon_provided {source : Api.Token.TokenSource}
    (shared : AsksSystem mockKeyring env)
    (ended : (loadOrGenerateWithEnv mockKeyring refusalText readToml env fresh).Ends
      handle keychain (.ok (token, source)) final) :
    Provided readToml mockKeyring env token final source := by
  unfold loadOrGenerateWithEnv at ended
  cases given : nonEmpty env.token with
  | some value =>
      rw [given] at ended
      obtain ⟨same, _⟩ := Program.Ends.of_done ended
      cases same
      exact .env given
  | none =>
      rw [given] at ended
      obtain ⟨found, between, step, ended⟩ := Program.Ends.of_bind ended
      cases found with
      | ok found =>
          obtain ⟨same, still⟩ := Program.Ends.of_done ended
          cases same
          subst still
          have real := keychainStep_real (shared given) step
          refine .keychain given real ?_
          refine (keychainStep_disciplined mockKeyring env fresh).entry_of_ends
            (keychainStep_begins mockKeyring env fresh) step ?_
          rw [real]
          rfl
      | error detail =>
          obtain ⟨rfl, text, file, held⟩ := configStep_ends ended
          refine .configFile given ?_ held
          rw [ends_file ended]
          exact file

/-! What a command line finds when every call goes well. -/

def quietly {Result : Type} (program : Resolving Result) (keychain : Keychain) :
    Result :=
  (program.runWith (handle .quiet) keychain).1

/-- Both sides take the system's keychain in the same environments, however the
daemon is built. -/
theorem real_iff (mockKeyring : Bool) (env : TokenEnv) :
    installKeyringBackend env = .real ↔
      Api.Token.installKeyringBackend mockKeyring env = .real := by
  unfold installKeyringBackend Api.Token.installKeyringBackend
  split
  · exact Iff.rfl
  · split
    · cases mockKeyring <;> simp
    · exact Iff.rfl

theorem configPath_eq : configPath env = joinPath (dataDir env) "config.toml" := by
  unfold configPath dataDirForConfig dataDir
  cases nonEmpty env.dataDir with
  | some dir => rfl
  | none =>
      cases nonEmpty env.home with
      | some home => rfl
      | none =>
          show "~/.bowerbird/config.toml" = joinPath "~/.bowerbird" "config.toml"
          decide

theorem quietly_env (given : nonEmpty env.token = some token) :
    quietly (resolveTokenForCli refusalText readToml notFoundText env) final =
      .ok (token, .env) := by
  unfold resolveTokenForCli
  rw [given]
  rfl

theorem quietly_keychain (unset : nonEmpty env.token = none)
    (real : installKeyringBackend env = .real)
    (entry : final.entry = some token) :
    quietly (resolveTokenForCli refusalText readToml notFoundText env) final =
      .ok (token, .keychain) := by
  unfold resolveTokenForCli keychainStep quietly
  rw [unset, real]
  simp [readKeychain, ask, handle, Choice.quiet, entry]

theorem quietly_readConfig {text : String}
    (file : final.file (configPath env) = some text)
    (held : tokenIn readToml text = some token) :
    (readConfigToken readToml notFoundText env).runWith (handle .quiet) final =
      (.ok token, final) := by
  rw [configPath_eq] at file
  simp [readConfigToken, ask, handle, Choice.quiet, file,
    commandLine_tokenField.mpr held]

theorem quietly_configFile {text : String} (unset : nonEmpty env.token = none)
    (away : installKeyringBackend env = .real → final.entry = none)
    (file : final.file (configPath env) = some text)
    (held : tokenIn readToml text = some token) :
    quietly (resolveTokenForCli refusalText readToml notFoundText env) final =
      .ok (token, .configFile) := by
  have step : ∃ detail, (keychainStep refusalText env).runWith (handle .quiet) final =
      (.error detail, final) := by
    unfold keychainStep
    cases backend : installKeyringBackend env with
    | disabled | mock => exact ⟨_, rfl⟩
    | real => exact ⟨"no entry", by simp [readKeychain, ask, handle, Choice.quiet, away backend]⟩
  obtain ⟨detail, step⟩ := step
  unfold resolveTokenForCli quietly
  rw [unset]
  simp only [Program.runWith_bind, step, configStep, quietly_readConfig file held]
  rfl

/-- A command line that looks for the token of a daemon that has started: it finds
a token, and another one than the daemon's only where the daemon had to do without
the keychain and the keychain holds another. -/
structure Follows (env : TokenEnv) (token : String)
    (source : Api.Token.TokenSource) (keychain : Keychain)
    (result : Except TokenError (String × TokenSource)) : Prop where
  found : ∃ other origin, result = .ok (other, origin)
  same : (∃ origin, result = .ok (token, origin)) ↔
    (source = .configFile → installKeyringBackend env = .real →
      keychain.entry = none ∨ keychain.entry = some token)
  origin : result = .ok (token, .env) ↔ source = .env
  kept : (∃ generated, source = .keychain generated) →
    result = .ok (token, .keychain)
  fallback : result = .ok (token, .configFile) ↔ source = .configFile ∧
    (installKeyringBackend env = .real → keychain.entry = none)

theorem command_line_follows_daemon {source : Api.Token.TokenSource}
    (shared : AsksSystem mockKeyring env)
    (ended : (loadOrGenerateWithEnv mockKeyring refusalText readToml env fresh).Ends
      handle keychain (.ok (token, source)) final) :
    Follows env token source final
      (quietly (resolveTokenForCli refusalText readToml notFoundText env) final) := by
  cases daemon_provided shared ended with
  | env given =>
      rw [quietly_env given]
      constructor <;> simp
  | keychain unset real entry =>
      rw [quietly_keychain unset ((real_iff mockKeyring env).mpr real) entry]
      constructor <;> simp
  | configFile unset file held =>
      by_cases away : installKeyringBackend env = .real → final.entry = none
      · rw [quietly_configFile unset away file held]
        constructor <;> simp
        · exact fun real => .inl (away real)
        · exact away
      · obtain ⟨real, held'⟩ := Classical.not_imp.mp away
        obtain ⟨other, entry⟩ := Option.ne_none_iff_exists'.mp held'
        rw [quietly_keychain unset real entry]
        constructor <;> simp [real, entry]

end Agreement

def bare : TokenEnv :=
  { token := none, keyringBackend := none, dataDir := none, home := some "/h" }

/-- The keychain of a daemon was locked, and holds another token. -/
theorem command_line_follows_daemon_locked :
    let keychain : Keychain :=
      { entry := some "other", file := fun path =>
          if path = "/h/.bowerbird/config.toml" then some "held" else none }
    Follows bare "held" .configFile keychain
      (quietly (resolveTokenForCli (fun _ => "") (fun text => .ok (some text)) ""
        bare) keychain) := by
  intro keychain
  have shared : AsksSystem true bare := fun _ => by decide
  have ended : (loadOrGenerateWithEnv true (fun _ => "")
      (fun text => .ok (some text)) bare "fresh").Ends handle keychain
      (.ok ("held", .configFile)) keychain :=
    .ask { fails := some "locked", lands := true } (.ask .quiet .done)
  exact command_line_follows_daemon shared ended

/-- A daemon that takes the mock keychain, as the default build can be told to, has
a token that no command line finds. -/
example :
    let mocked := { bare with keyringBackend := some "mock" }
    let keychain : Keychain := { entry := some "other", file := fun _ => none }
    (loadOrGenerateWithEnv true (fun _ => "") (fun _ => .ok none) mocked "fresh").Ends
        handle keychain (.ok ("fresh", .keychain true)) keychain ∧
      (quietly (resolveTokenForCli (fun _ => "") (fun _ => .ok none) "" mocked)
        keychain).toOption = none :=
  ⟨.done, rfl⟩

end Bowerbird.Commands.Auth
