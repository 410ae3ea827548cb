import Bowerbird.Foundation.Directory
import Bowerbird.Foundation.SecretStore

namespace Bowerbird.Api.Token

open Foundation SecretStore

/-! Where the daemon's bearer token comes from.  How the keychain words its
errors and how TOML is read are parameters. -/

def service : String := "bowerbird-daemon"

def user : String := "bearer-token"

inductive TokenSource where
  | env
  | keychain (generated : Bool)
  | configFile
  deriving Repr, DecidableEq

inductive ReadFailure where
  | notFound
  | io (path error : String)
  | toml (path error : String)
  | noTokenField
  deriving Repr, DecidableEq

def ReadFailure.display : ReadFailure → String
  | notFound => "not present"
  | io path error => "read error at " ++ path ++ ": " ++ error
  | toml path error => "parse error at " ++ path ++ ": " ++ error
  | noTokenField => "no `token` field"

inductive TriedPath where
  | envUnset
  | keychain (detail : String)
  | configFile (reason : ReadFailure)
  deriving Repr, DecidableEq

def TriedPath.display : TriedPath → String
  | envUnset => "BOWERBIRD_TOKEN env (unset)"
  | keychain detail => "keychain (" ++ detail ++ ")"
  | configFile reason => "~/.bowerbird/config.toml (" ++ reason.display ++ ")"

structure TokenError where
  tried : List TriedPath
  deriving Repr, DecidableEq

/-- The message that names every path, for the daemon and the command line. -/
def failureText (tried : List String) : String :=
  "failed to resolve bearer token; tried:\n" ++
    String.join (tried.map fun path => "  - " ++ path ++ "\n") ++
    "set BOWERBIRD_TOKEN or write `token = \"<uuid>\"` into " ++
    "~/.bowerbird/config.toml (mode 0600)"

def TokenError.display (error : TokenError) : String :=
  failureText (error.tried.map TriedPath.display)

structure TokenEnv where
  token : Option String
  keyringBackend : Option String
  dataDir : Option String
  home : Option String
  deriving Repr, DecidableEq

def dataDirForConfig (env : TokenEnv) : Option String :=
  match nonEmpty env.dataDir with
  | some dir => some dir
  | none => (nonEmpty env.home).map (joinPath · ".bowerbird")

inductive KeyringBackend where
  | real
  | mock
  | disabled
  deriving Repr, DecidableEq

/-- `mockKeyring` is the feature, on by default, that lets tests keep off the real
keychain. -/
def installKeyringBackend (mockKeyring : Bool) (env : TokenEnv) :
    KeyringBackend :=
  if env.keyringBackend = some "disable" then .disabled
  else if env.keyringBackend = some "mock" then
    if mockKeyring then .mock else .disabled
  else .real

abbrev Resolving (Result : Type) : Type :=
  Using String String String Result

def ask (call : Call String String) : Resolving (call.Answer String) :=
  Program.query call

def keychainRead : Resolving (Except Refusal (Option String)) := do
  match ← ask .openEntry with
  | .error refusal => return .error refusal
  | .ok () =>
      match ← ask .get with
      | .ok password => return .ok (some password)
      | .error .noEntry => return .ok none
      | .error refusal => return .error refusal

def mismatch : Refusal :=
  .other s!"keychain write/read mismatch (service={service}, user={user})"

/-- A write may land in another keychain than the one that is read. -/
def readBack (token readback : String) : Except Refusal String :=
  if readback ≠ token then .error mismatch else .ok token

/-- `fresh` is the UUID that this run draws. -/
def keychainWriteGenerated (fresh : String) :
    Resolving (Except Refusal String) := do
  match ← ask .openEntry with
  | .error refusal => return .error refusal
  | .ok () =>
      match ← ask (.set fresh) with
      | .error refusal => return .error refusal
      | .ok () =>
          match ← ask .get with
          | .error refusal => return .error refusal
          | .ok readback => return readBack fresh readback

section Resolve

variable (mockKeyring : Bool) (refusalText : Refusal → String)
variable (readToml : String → Except String (Option String))

/-- A token and whether it is a new one, or what to say of the keychain. -/
def keychainStep (env : TokenEnv) (fresh : String) :
    Resolving (Except String (String × Bool)) := do
  match installKeyringBackend mockKeyring env with
  | .disabled => return .error "skipped via BOWERBIRD_KEYRING_BACKEND"
  | .mock => return .ok (fresh, true) -- empty, and of this process alone
  | .real =>
      match ← keychainRead with
      | .ok (some value) => return .ok (value, false)
      | .ok none =>
          match ← keychainWriteGenerated fresh with
          | .ok token => return .ok (token, true)
          | .error refusal => return .error ("write failed: " ++ refusalText refusal)
      | .error refusal => return .error (refusalText refusal)

def tokenField (path : String) (text : String) : Except ReadFailure String :=
  match readToml text with
  | .error error => .error (.toml path error)
  | .ok token =>
      match nonEmpty token with
      | some token => .ok token
      | none => .error .noTokenField

def readConfigToken (path : String) : Resolving (Except ReadFailure String) := do
  match ← ask (.readFile path) with
  | .ok text => return tokenField readToml path text
  | .error .notFound => return .error .notFound
  | .error (.other error) => return .error (.io path error)

def configPath (env : TokenEnv) : String :=
  match dataDirForConfig env with
  | some dir => joinPath dir "config.toml"
  | none => "~/.bowerbird/config.toml"

def configStep (env : TokenEnv) (detail : String) :
    Resolving (Except TokenError (String × TokenSource)) := do
  match ← readConfigToken readToml (configPath env) with
  | .ok token => return .ok (token, .configFile)
  | .error reason =>
      return .error { tried := [.envUnset, .keychain detail, .configFile reason] }

def loadOrGenerateWithEnv (env : TokenEnv) (fresh : String) :
    Resolving (Except TokenError (String × TokenSource)) :=
  match nonEmpty env.token with
  | some token => return .ok (token, .env)
  | none => do
      match ← keychainStep mockKeyring refusalText env fresh with
      | .ok (token, generated) => return .ok (token, .keychain generated)
      | .error detail => configStep readToml env detail

end Resolve

end Bowerbird.Api.Token
