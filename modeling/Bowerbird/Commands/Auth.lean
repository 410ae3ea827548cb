import Bowerbird.Api.Token

namespace Bowerbird.Commands.Auth

open Foundation SecretStore Api.Token

/-! Where the command line's bearer token comes from: the daemon's chain again,
read and never written. -/

inductive TokenSource where
  | env
  | keychain
  | configFile
  deriving Repr, DecidableEq

inductive TriedPath where
  | envUnset
  | keychain (detail : String)
  | configFile (detail : String)
  deriving Repr, DecidableEq

def TriedPath.display : TriedPath → String
  | envUnset => "BOWERBIRD_TOKEN env (unset)"
  | keychain detail => "keychain (" ++ detail ++ ")"
  | configFile detail => "~/.bowerbird/config.toml (" ++ detail ++ ")"

structure TokenError where
  tried : List TriedPath
  deriving Repr, DecidableEq

def TokenError.display (error : TokenError) : String :=
  failureText (error.tried.map TriedPath.display)

/-- The command line takes the mock keychain whenever it is told to. -/
def installKeyringBackend (env : TokenEnv) : KeyringBackend :=
  if env.keyringBackend = some "disable" then .disabled
  else if env.keyringBackend = some "mock" then .mock
  else .real

def dataDir (env : TokenEnv) : String :=
  match nonEmpty env.dataDir with
  | some dir => dir
  | none =>
      match nonEmpty env.home with
      | some home => joinPath home ".bowerbird"
      | none => "~/.bowerbird"

section Resolve

variable (refusalText : Refusal → String)
variable (readToml : String → Except String (Option String))

def readKeychain : Resolving (Except String (Option String)) := do
  match ← ask .openEntry with
  | .error refusal => return .error (refusalText refusal)
  | .ok () =>
      match ← ask .get with
      | .ok password => return .ok (some password)
      | .error .noEntry => return .ok none
      | .error refusal => return .error (refusalText refusal)

/-- A token that is there, or what to say of the keychain. -/
def keychainStep (env : TokenEnv) : Resolving (Except String String) := do
  match installKeyringBackend env with
  | .disabled => return .error "skipped via BOWERBIRD_KEYRING_BACKEND"
  | .mock => return .error "no entry" -- empty in every new process
  | .real =>
      match ← readKeychain refusalText with
      | .ok (some token) => return .ok token
      | .ok none => return .error "no entry"
      | .error detail => return .error detail

def tokenField (path : String) (text : String) : Except String String :=
  match readToml text with
  | .error error => .error ("parse error at " ++ path ++ ": " ++ error)
  | .ok token =>
      match nonEmpty token with
      | some token => .ok token
      | none => .error "no `token` field"

def unreadable (path : String) : Unreadable → String → String
  | .notFound, notFoundText => "read error at " ++ path ++ ": " ++ notFoundText
  | .other error, _ => "read error at " ++ path ++ ": " ++ error

/-- `notFoundText` words the error of a file that went away since it was found. -/
def readConfigToken (notFoundText : String) (env : TokenEnv) :
    Resolving (Except String String) := do
  let path := joinPath (dataDir env) "config.toml"
  if ← ask (.fileExists path) then
    match ← ask (.readFile path) with
    | .ok text => return tokenField readToml path text
    | .error error => return .error (unreadable path error notFoundText)
  else return .error "not present"

def configStep (notFoundText : String) (env : TokenEnv) (detail : String) :
    Resolving (Except TokenError (String × TokenSource)) := do
  match ← readConfigToken readToml notFoundText env with
  | .ok token => return .ok (token, .configFile)
  | .error reason =>
      return .error { tried := [.envUnset, .keychain detail, .configFile reason] }

def resolveTokenForCli (notFoundText : String) (env : TokenEnv) :
    Resolving (Except TokenError (String × TokenSource)) :=
  match nonEmpty env.token with
  | some token => return .ok (token, .env)
  | none => do
      match ← keychainStep refusalText env with
      | .ok token => return .ok (token, .keychain)
      | .error detail => configStep readToml notFoundText env detail

end Resolve

end Bowerbird.Commands.Auth
