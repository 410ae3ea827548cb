import Bowerbird.Protocol.JsonPrefix
import Bowerbird.Shim.Socket

namespace Bowerbird.Shim

open Protocol Foundation

/-! One run of the shim: the hook's payload, with two keys put into it, goes out
on one line.  Reading the payload is a parameter. -/

def maxStdinBytes : Nat :=
  2 ^ 20

def hookKinds : List String :=
  ["UserPromptSubmit", "PreToolUse", "PostToolUse", "Stop", "Notification"]

/-- The last hook kind that the arguments name. -/
def scanArgs (hookKind : Option String) :
    List String → Except Error (Option String)
  | [] => .ok hookKind
  | ["--hook-kind"] => .error (.badArgs "--hook-kind requires a value")
  | "--hook-kind" :: value :: rest => scanArgs (some value) rest
  | arg :: rest =>
      match stripPrefix "--hook-kind=" arg with
      | some value => scanArgs (some value) rest
      | none => .error (.badArgs ("unknown argument: " ++ arg))

def parseHookKind (args : List String) : Except Error String := do
  match ← scanArgs none args with
  | none => .error (.badArgs "--hook-kind not provided")
  | some kind =>
      if kind ∈ hookKinds then .ok kind
      else .error (.badArgs ("invalid hook-kind: " ++ kind))

def signedNumber (value : Int) : Json.Number :=
  if 0 ≤ value then .posInt value.toNat else .negInt value

def inject (hookKind : String) (ppid : Int)
    (fields : List (String × Json.Value)) : List (String × Json.Value) :=
  Json.insertField "bowerbird_ppid" (.number (signedNumber ppid))
    (Json.insertField "hook_kind" (.string hookKind) fields)

/-- The bytes of an object, without the newline that ends its line. -/
def objectBytes (fields : List (String × Json.Value)) : List UInt8 :=
  Utf8.encode (String.ofList (Json.print (.object fields)))

section Run

variable (readJson : List UInt8 → Except String Json.Value)

def payload (args : List String) (ppid : Int) (stdin : List UInt8) :
    Except Error (List UInt8) := do
  let hookKind ← parseHookKind args
  if maxStdinBytes < stdin.length then .error (.stdinTooLarge maxStdinBytes)
  else if stdin.isEmpty then .error .stdinEmpty
  else
    match readJson stdin with
    | .error text => .error (.stdinJson text)
    | .ok (.object fields) =>
        .ok (objectBytes (inject hookKind ppid fields) ++ [Utf8.newline])
    | .ok _ => .error .stdinNotJsonObject

def finish : Except Error Response → Except Error Unit
  | .error error => .error error
  | .ok .ok => .ok ()
  | .ok .backpressure => .error .backpressure503
  | .ok (.daemonError reason) => .error (.daemonError400 reason)

/-- What has gone out on the socket, and how the run ended, if it has; the reply
is read once the payload is out. -/
def run (args : List String) (ppid : Int) (stdin : List UInt8)
    (writes : List Attempt) (reply : List UInt8) (reads : List Attempt) :
    List UInt8 × Option (Except Error Unit) :=
  match payload readJson args ppid stdin with
  | .error error => ([], some (.error error))
  | .ok wire =>
      match writeBounded writeBudget [] wire writes with
      | (sent, some (.ok ())) => (sent, (receive reply reads).map finish)
      | (sent, ended) => (sent, ended)

variable {readJson}

theorem payload_ok {args : List String} {ppid : Int} {stdin bytes : List UInt8}
    (sends : payload readJson args ppid stdin = .ok bytes) :
    ∃ fields, bytes = objectBytes fields ++ [Utf8.newline] := by
  unfold payload at sends
  cases named : parseHookKind args with
  | error error => simp [named, bind, Except.bind] at sends
  | ok hookKind =>
      simp only [named, bind, Except.bind] at sends
      split at sends
      · cases sends
      · split at sends
        · cases sends
        · split at sends
          · cases sends
          · rename_i fields _
            exact ⟨inject hookKind ppid fields, (Except.ok.inj sends).symm⟩
          · cases sends

theorem run_sent {args : List String} {ppid : Int} {stdin bytes : List UInt8}
    (sends : payload readJson args ppid stdin = .ok bytes)
    (writes : List Attempt) (reply : List UInt8) (reads : List Attempt) :
    (run readJson args ppid stdin writes reply reads).1 <+: bytes := by
  obtain ⟨unwritten, joined, _⟩ :=
    writeBounded_prefix writeBudget [] bytes writes
  have sent : (run readJson args ppid stdin writes reply reads).1 =
      (writeBounded writeBudget [] bytes writes).1 := by
    unfold run
    simp only [sends]
    split
    · rename_i written
      rw [written]
    · rename_i written
      rw [written]
  rw [sent]
  exact ⟨unwritten, joined⟩

end Run

theorem newline_not_mem_objectBytes (fields : List (String × Json.Value)) :
    Utf8.newline ∉ objectBytes fields := by
  intro member
  have broken := Utf8.newline_mem_encode.mp member
  rw [String.toList_ofList] at broken
  exact absurd (Json.print_visible _ _ broken) (by decide)

end Bowerbird.Shim
