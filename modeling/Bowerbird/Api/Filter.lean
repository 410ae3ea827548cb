import Bowerbird.Protocol.Event

namespace Bowerbird.Api

open Protocol

/-! State tokens, shared by the `?state=` query and by `Subscribe.states`. -/

/-- `White_Space`, as `str::trim` has it. -/
def isWhitespace (char : Char) : Bool :=
  let code := char.toNat
  (9 ≤ code && code ≤ 13) || code == 0x20 || code == 0x85 || code == 0xA0 ||
    code == 0x1680 || (0x2000 ≤ code && code ≤ 0x200A) || code == 0x2028 ||
    code == 0x2029 || code == 0x202F || code == 0x205F || code == 0x3000

def trim (text : List Char) : List Char :=
  ((text.dropWhile isWhitespace).reverse.dropWhile isWhitespace).reverse

def toAsciiLowercase (char : Char) : Char :=
  if 65 ≤ char.toNat && char.toNat ≤ 90 then Char.ofNat (char.toNat + 32)
  else char

/-- Why a token is refused; either message quotes it. -/
inductive TokenError where
  | commaSeparated (token : String)
  | unaccepted (token : String)
  deriving Repr, DecidableEq

def parseStateToken (token : String) :
    Except TokenError SessionCurrentState :=
  match String.ofList ((trim token.toList).map toAsciiLowercase) with
  | "idle" => .ok .idle
  | "working" => .ok .working
  | "waitinginput" => .ok .waitingInput
  | "ended" => .ok .ended
  | "unknown" => .ok .unknown
  | _ =>
      if ',' ∈ token.toList then .error (.commaSeparated token)
      else .error (.unaccepted token)

def parseStatesArray (states : List String) :
    Except TokenError (List SessionCurrentState) :=
  states.mapM parseStateToken

def stateMatches (filter : List SessionCurrentState)
    (derived : SessionCurrentState) : Bool :=
  filter.isEmpty || filter.contains derived

@[simp] theorem stateMatches_nil (derived : SessionCurrentState) :
    stateMatches [] derived = true :=
  rfl

example : parseStatesArray ["Working", " idle "] = .ok [.working, .idle] := by
  decide

example : parseStatesArray ["working,ended"] =
    .error (.commaSeparated "working,ended") := by
  decide

end Bowerbird.Api
