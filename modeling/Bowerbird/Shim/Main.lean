import Bowerbird.Adapter.MergeStrip
import Bowerbird.Foundation.Directory
import Bowerbird.Shim.Truncation

namespace Bowerbird.Shim

open Protocol Foundation Ingest

/-! One hook from beginning to end: what the environment and the daemon's socket
do to it, and what is left for Claude, who sees an exit code and standard error,
and for the operator, who reads the log. -/

inductive Failure where
  | noHome
  | stdin (kind : ErrorKind)
  | connect (path : String) (kind : ErrorKind)
  | logIo (kind : ErrorKind)
  | backpressure (text : String)
  /-- What the payload and the exchange themselves can fail with. -/
  | exchange (error : Error)
  deriving Repr, DecidableEq

namespace TimeoutOp

def name : TimeoutOp → String
  | write => "write"
  | read => "read"

def consequence : TimeoutOp → String
  | write => "event not sent"
  | read => "no reply from daemon, event may already be recorded"

end TimeoutOp

namespace Failure

def exitCode : Failure → Int
  | stdin _ | exchange .stdinEmpty | exchange .stdinNotJsonObject
  | exchange (.stdinTooLarge _) | exchange (.stdinJson _) | connect _ _
  | logIo _ | exchange (.badArgs _) | noHome => 1
  | exchange (.socketIo _) | exchange (.timeout _ _ _)
  | exchange (.badResponse _) | backpressure _ | exchange .backpressure503
  | exchange (.daemonError400 _) => 0

def level (failure : Failure) : String :=
  if failure.exitCode = 0 then "WARN" else "ERROR"

def stderrHint : Failure → Option String
  | stdin _ => some "could not read hook payload from stdin"
  | exchange .stdinEmpty => some "empty hook payload"
  | exchange .stdinNotJsonObject => some "hook payload was not a JSON object"
  | exchange (.stdinTooLarge _) => some "hook payload exceeds size cap"
  | exchange (.stdinJson _) => some "hook payload was not valid JSON"
  | connect _ _ => some "daemon not running, event dropped"
  | logIo _ => some "could not write shim log"
  | exchange (.badArgs _) => some "invalid shim arguments"
  | noHome => some "HOME not set, cannot record event"
  | exchange (.socketIo _) | exchange (.timeout _ _ _)
  | exchange (.badResponse _) | backpressure _ | exchange .backpressure503
  | exchange (.daemonError400 _) => none

/-- `ioText` is how the system words its errors. -/
def message (ioText : ErrorKind → String) : Failure → String
  | stdin kind => "stdin read failed: " ++ ioText kind
  | exchange .stdinEmpty => "stdin was empty"
  | exchange .stdinNotJsonObject => "stdin payload was not a JSON object"
  | exchange (.stdinTooLarge capBytes) =>
      s!"stdin payload too large: exceeds {capBytes}-byte cap"
  | exchange (.stdinJson text) => "stdin JSON parse failed: " ++ text
  | connect path kind =>
      "connect to ingest socket " ++ path ++ " failed: " ++ ioText kind
  | exchange (.socketIo kind) => "socket I/O failed: " ++ ioText kind
  | exchange (.timeout op budgetMs elapsedMs) =>
      "socket " ++ op.name ++
        s!" timed out after {elapsedMs}ms (budget {budgetMs}ms); " ++
        op.consequence
  | logIo kind => "log file I/O failed: " ++ ioText kind
  | exchange (.badResponse text) => "unexpected daemon response: " ++ text
  | backpressure text => "backpressure (daemon ingest queue full): " ++ text
  | exchange .backpressure503 => "daemon returned 503 (backpressure)"
  | exchange (.daemonError400 reason) => "daemon returned 400: " ++ reason
  | exchange (.badArgs text) =>
      "missing or invalid --hook-kind argument: " ++ text
  | noHome => "HOME environment variable not set and no overrides provided"

end Failure

/-! Where things are. -/

structure Environment where
  shimLog : Option String
  ingestSock : Option String
  home : Option String
  deriving Repr, DecidableEq

def homeEnv (env : Environment) : Except Failure String :=
  match nonEmpty env.home with
  | some home => .ok home
  | none => .error .noHome

/-- A path of one's own, or one in the home directory. -/
def resolvePath (own : Option String) (path : String) (env : Environment) :
    Except Failure String :=
  match nonEmpty own with
  | some path => .ok path
  | none => (homeEnv env).map (joinPath · path)

def resolveLogPath (env : Environment) : Except Failure String :=
  resolvePath env.shimLog ".bowerbird/shim.log" env

def resolveSockPath (env : Environment) : Except Failure String :=
  resolvePath env.ingestSock ".bowerbird/ingest.sock" env

/-- How a run is called. -/
structure Invocation where
  env : Environment
  args : List String
  ppid : Int
  isPid : -2147483648 ≤ ppid ∧ ppid ≤ 2147483647

/-- What a run meets: standard input and how reading it breaks off, how the
connect and the two settings of the socket fail, each turn of the two loops, the
peer's answer, and whether the log could be written. -/
structure Meets where
  stdin : List UInt8
  stdinBroken : Option ErrorKind
  connect : Option ErrorKind
  setTimeouts : Option ErrorKind
  writes : List Attempt
  reply : List UInt8
  reads : List Attempt
  logged : Bool

/-- One byte past the cap tells that there is too much. -/
def readStdinCapped (meets : Meets) : Except Failure (List UInt8) :=
  if maxStdinBytes < meets.stdin.length then
    .error (.exchange (.stdinTooLarge maxStdinBytes))
  else
    match meets.stdinBroken with
    | some kind => .error (.stdin kind)
    | none => .ok meets.stdin

section Hook

variable (readJson : List UInt8 → Except String Json.Value)

/-- Everything before the connect, with the order in which it is refused. -/
def prepare (call : Invocation) (meets : Meets) :
    Except Failure (String × List UInt8) := do
  let _ ← (parseHookKind call.args).mapError Failure.exchange
  let sockPath ← resolveSockPath call.env
  let stdin ← readStdinCapped meets
  let wire ←
    (payload readJson call.args call.ppid stdin).mapError Failure.exchange
  return (sockPath, wire)

/-- The bytes that went out, and how the exchange ended, if it has. -/
def send (sockPath : String) (wire : List UInt8) (meets : Meets) :
    List UInt8 × Option (Except Failure Response) :=
  match meets.connect with
  | some kind => ([], some (.error (.connect sockPath kind)))
  | none =>
      match meets.setTimeouts with
      | some kind => ([], some (.error (.exchange (.socketIo kind))))
      | none =>
          match writeBounded writeBudget [] wire meets.writes with
          | (sent, none) => (sent, none)
          | (sent, some (.error error)) =>
              (sent, some (.error (.exchange error)))
          | (sent, some (.ok ())) =>
              (sent, (receive meets.reply meets.reads).map
                (·.mapError Failure.exchange))

def finished : Except Failure Response → Except Failure Unit
  | .error failure => .error failure
  | .ok response => (finish (.ok response)).mapError Failure.exchange

def runHook (call : Invocation) (meets : Meets) :
    List UInt8 × Option (Except Failure Unit) :=
  match prepare readJson call meets with
  | .error failure => ([], some (.error failure))
  | .ok (sockPath, wire) =>
      let (sent, ended) := send sockPath wire meets
      (sent, ended.map finished)

/-- A line of the log, without its time. -/
structure LogLine where
  level : String
  message : String
  deriving Repr, DecidableEq

structure Ending where
  exitCode : Int
  stderr : Option String
  log : Option LogLine
  deriving Repr, DecidableEq

def ending (ioText : ErrorKind → String) (logged : Bool) :
    Except Failure Unit → Ending
  | .ok () => { exitCode := 0, stderr := none, log := none }
  | .error failure =>
      { exitCode := failure.exitCode
        stderr := failure.stderrHint.map fun hint =>
          if logged then "bowerbird: " ++ hint ++ " (see the shim log)\n"
          else "bowerbird: " ++ hint ++ "\n"
        log :=
          if logged then
            some { level := failure.level, message := failure.message ioText }
          else none }

/-- Without a place for the log nothing is tried. -/
def main (ioText : ErrorKind → String) (call : Invocation) (meets : Meets) :
    List UInt8 × Option Ending :=
  match resolveLogPath call.env with
  | .error failure =>
      ([], some {
        exitCode := failure.exitCode
        stderr := failure.stderrHint.map fun hint =>
          "bowerbird: " ++ hint ++ "\n"
        log := none })
  | .ok _ =>
      let (sent, ended) := runHook readJson call meets
      (sent, ended.map (ending ioText meets.logged))

end Hook

/-! What the exchange itself can fail with, and that no answer breaks a line of
the log. -/

def Unlined (text : String) : Prop :=
  '\n' ∉ text.toList

instance (text : String) : Decidable (Unlined text) :=
  inferInstanceAs (Decidable (¬ _))

theorem Unlined.append {left right : String} (first : Unlined left)
    (second : Unlined right) : Unlined (left ++ right) := by
  rw [Unlined, String.toList_append, List.mem_append]
  rintro (member | member)
  · exact first member
  · exact second member

theorem unlined_of_decode {bytes : List UInt8} {text : String}
    (open' : Utf8.newline ∉ bytes) (decoded : Utf8.decode bytes = some text) :
    Unlined text := by
  intro member
  rw [Utf8.decode_eq_some.mp decoded] at open'
  exact open' (Utf8.newline_mem_encode.mpr member)

theorem unlined_trimEndReturns {text : String} (unlined : Unlined text) :
    Unlined (trimEndReturns text) := by
  intro member
  rw [trimEndReturns, String.toList_ofList] at member
  exact unlined ((List.rdropWhile_prefix _ _).subset member)

theorem unlined_stripPrefix {start text rest : String}
    (unlined : Unlined text) (stripped : stripPrefix start text = some rest) :
    Unlined rest := by
  obtain ⟨chars, found, rfl⟩ := Option.map_eq_some_iff.mp stripped
  intro member
  rw [String.toList_ofList] at member
  apply unlined
  have whole := List.isPrefixOf?_eq_some_iff_append_eq.mp found
  rw [← whole]
  exact List.mem_append_right _ member

theorem unlined_toString (value : Nat) : Unlined (toString value) := by
  intro member
  have digit := Json.isNumber_toString value
  rw [Nat.toString_eq_repr, Nat.toList_repr] at member
  exact absurd (Json.toDigits_digits value '\n' member) (by decide)

/-- The exchange broke off, or its answer was none. -/
def Error.Broken : Error → Prop
  | .socketIo _ | .timeout _ _ _ => True
  | .badResponse text => Unlined text
  | _ => False

/-- An error after the connect: the daemon may also refuse. -/
def Error.Late : Error → Prop
  | .backpressure503 => True
  | .daemonError400 text => Unlined text
  | error => error.Broken

theorem Error.Broken.late {error : Error} (broken : error.Broken) :
    error.Late := by
  cases error <;> first | exact broken | cases broken

theorem classify_broken (op : TimeoutOp) (budget elapsed : Nat)
    (kind : ErrorKind) : (classify op budget elapsed kind).Broken := by
  cases kind <;> trivial

theorem writeBounded_broken {budget : Nat} {written unsent : List UInt8}
    {attempts : List Attempt} {error : Error}
    (failed : (writeBounded budget written unsent attempts).2 =
      some (.error error)) : error.Broken := by
  induction attempts generalizing written unsent with
  | nil =>
      rw [writeBounded] at failed
      split at failed <;> cases failed
  | cons attempt rest induction =>
      rw [writeBounded] at failed
      split at failed
      · cases failed
      · split at failed
        · cases failed
          trivial
        · split at failed
          · simp only at failed
            split at failed
            · cases failed
              trivial
            · exact induction failed
          · exact induction failed
          · cases failed
            exact classify_broken _ _ _ _

theorem overflowText_unlined {buf : List UInt8}
    (open' : Utf8.newline ∉ buf) : Unlined (overflowText buf) := by
  have lossy : Unlined (Utf8.lossy (buf.take 64)) := fun member =>
    open' (List.mem_of_mem_take (Utf8.newline_of_mem_lossy member))
  have opening : Unlined "... (" := by decide
  have closing : Unlined " bytes, no newline)" := by decide
  exact ((lossy.append opening).append (unlined_toString _)).append closing

/-- A read brings a beginning of the stream, or fails before a line has come. -/
def Brings (stream : List UInt8) : Except Error (List UInt8) → Prop
  | .ok raw => raw <+: stream
  | .error error => error.Broken

theorem readBounded_brings {budget size : Nat} {filled stream : List UInt8}
    {attempts : List Attempt} {result : Except Error (List UInt8)}
    (open' : Utf8.newline ∉ filled)
    (ended : readBounded budget size filled stream attempts = some result) :
    Brings (filled ++ stream) result := by
  induction attempts generalizing filled stream with
  | nil => cases ended
  | cons attempt rest induction =>
      rw [readBounded] at ended
      split at ended
      · cases ended
        trivial
      · split at ended
        · cases ended
          exact overflowText_unlined open'
        · split at ended
          · rename_i limit _
            simp only at ended
            have cut := List.take_append_drop
              (min limit (size - filled.length)) stream
            generalize List.take (min limit (size - filled.length)) stream =
              chunk at cut ended
            generalize List.drop (min limit (size - filled.length)) stream =
              later at cut ended
            subst cut
            split at ended
            · cases ended
              exact List.prefix_append _ _
            · rw [← List.append_assoc]
              split at ended
              · cases ended
                exact List.prefix_append _ _
              · rename_i unbroken
                refine induction ?_ ended
                intro member
                rcases List.mem_append.mp member with member | member
                · exact open' member
                · exact unbroken (List.contains_iff_mem.mpr member)
          · exact induction open' ended
          · cases ended
            exact classify_broken _ _ _ _

/-- What a reply comes to holds no line end. -/
def Told : Except Error Response → Prop
  | .error error => error.Broken
  | .ok (.daemonError reason) => Unlined reason
  | .ok _ => True

theorem parseStatus_told {trimmed : String} (unlined : Unlined trimmed) :
    Told (parseStatus trimmed) := by
  unfold parseStatus
  split
  · have empty : Unlined emptyReplyText := by decide
    exact empty
  · split
    · trivial
    · split
      · trivial
      · split
        · rename_i stripped
          exact unlined_stripPrefix unlined stripped
        · exact unlined

theorem parseReply_told (raw : List UInt8) : Told (parseReply raw) := by
  have open' := newline_not_mem_replyLine raw
  unfold parseReply
  simp only
  split
  · exact fun member => open' (Utf8.newline_of_mem_lossy member)
  · rename_i text decoded
    exact parseStatus_told
      (unlined_trimEndReturns (unlined_of_decode open' decoded))

theorem receive_told {stream : List UInt8} {attempts : List Attempt}
    {result : Except Error Response}
    (ended : receive stream attempts = some result) :
    Told result ∧ ∀ response, result = .ok response →
      ∃ raw, raw <+: stream ∧ parseReply raw = .ok response := by
  obtain ⟨read, reads, rfl⟩ := Option.map_eq_some_iff.mp ended
  have brings := readBounded_brings List.not_mem_nil reads
  cases read with
  | error error =>
      refine ⟨brings, ?_⟩
      intro response ok
      cases ok
  | ok raw =>
      refine ⟨parseReply_told raw, ?_⟩
      intro response parsed
      exact ⟨raw, brings, parsed⟩

/-! How a run ends. -/

section Endings

variable {readJson : List UInt8 → Except String Json.Value}
variable {ioText : ErrorKind → String}
variable {call : Invocation} {meets : Meets} {path : String}
variable {sent wire : List UInt8}

theorem Error.Late.silent {error : Error} (late : error.Late) :
    (Failure.exchange error).exitCode = 0 ∧
      (Failure.exchange error).stderrHint = none := by
  cases error <;> first | exact ⟨rfl, rfl⟩ | cases late

theorem scanArgs_error {hookKind : Option String} {args : List String}
    {error : Error} (refused : scanArgs hookKind args = .error error) :
    ∃ text, error = .badArgs text := by
  fun_induction scanArgs hookKind args with
  | case1 => cases refused
  | case2 =>
      cases refused
      exact ⟨_, rfl⟩
  | case3 hookKind value rest induction => exact induction refused
  | case4 hookKind arg rest _ _ value stripped induction =>
      exact induction refused
  | case5 =>
      cases refused
      exact ⟨_, rfl⟩

theorem parseHookKind_error {args : List String} {error : Error}
    (refused : parseHookKind args = .error error) :
    ∃ text, error = .badArgs text := by
  unfold parseHookKind at refused
  cases scanned : scanArgs none args with
  | error error' =>
      simp only [scanned, bind, Except.bind] at refused
      cases refused
      exact scanArgs_error scanned
  | ok hookKind =>
      simp only [scanned, bind, Except.bind] at refused
      split at refused
      · cases refused
        exact ⟨_, rfl⟩
      · split at refused
        · cases refused
        · cases refused
          exact ⟨_, rfl⟩

theorem payload_error {args : List String} {ppid : Int} {stdin : List UInt8}
    {error : Error} (refused : payload readJson args ppid stdin = .error error) :
    (Failure.exchange error).exitCode = 1 := by
  unfold payload at refused
  cases named : parseHookKind args with
  | error error' =>
      simp only [named, bind, Except.bind] at refused
      cases refused
      obtain ⟨text, rfl⟩ := parseHookKind_error named
      rfl
  | ok hookKind =>
      simp only [named, bind, Except.bind] at refused
      split at refused
      · cases refused
        rfl
      · split at refused
        · cases refused
          rfl
        · split at refused
          · cases refused
            rfl
          · cases refused
          · cases refused
            rfl

theorem resolvePath_error {own : Option String} {env : Environment}
    {failure : Failure} (refused : resolvePath own path env = .error failure) :
    failure = .noHome := by
  unfold resolvePath homeEnv at refused
  split at refused
  · cases refused
  · split at refused <;> cases refused
    rfl

theorem readStdinCapped_cases {result : Except Failure (List UInt8)}
    (read : readStdinCapped meets = result) :
    result = .ok meets.stdin ∨
      ∃ failure, result = .error failure ∧ failure.exitCode = 1 := by
  unfold readStdinCapped at read
  split at read
  · exact .inr ⟨_, read.symm, rfl⟩
  · split at read
    · exact .inr ⟨_, read.symm, rfl⟩
    · exact .inl read.symm

/-- Nothing is sent but the hook's payload, and what is refused before that ends
with exit code 1. -/
theorem prepare_cases {result : Except Failure (String × List UInt8)}
    (prepared : prepare readJson call meets = result) :
    (∃ failure, result = .error failure ∧ failure.exitCode = 1) ∨
    ∃ path wire, result = .ok (path, wire) ∧
      payload readJson call.args call.ppid meets.stdin = .ok wire := by
  subst prepared
  unfold prepare
  cases named : parseHookKind call.args with
  | error error =>
      obtain ⟨text, rfl⟩ := parseHookKind_error named
      exact .inl ⟨_, rfl, rfl⟩
  | ok hookKind =>
      simp only [Except.mapError, bind, Except.bind]
      cases found : resolveSockPath call.env with
      | error failure =>
          cases resolvePath_error found
          exact .inl ⟨_, rfl, rfl⟩
      | ok path =>
          rcases readStdinCapped_cases (rfl : readStdinCapped meets = _) with
            read | ⟨failure, read, code⟩
          · simp only [read]
            cases sends : payload readJson call.args call.ppid meets.stdin with
            | error error => exact .inl ⟨_, rfl, payload_error sends⟩
            | ok wire => exact .inr ⟨path, wire, rfl, rfl⟩
          · simp only [read]
            exact .inl ⟨failure, rfl, code⟩

theorem send_cases {result : Except Failure Response}
    (sends : send path wire meets = (sent, some result)) :
    (sent = [] ∧ ∃ kind, result = .error (.connect path kind)) ∨
    sent <+: wire ∧
      ((∃ error, result = .error (.exchange error) ∧ error.Broken) ∨
        ∃ response raw, result = .ok response ∧ sent = wire ∧
          raw <+: meets.reply ∧ parseReply raw = .ok response) := by
  unfold send at sends
  split at sends
  · cases sends
    exact .inl ⟨rfl, _, rfl⟩
  · right
    split at sends
    · cases sends
      exact ⟨List.nil_prefix, .inl ⟨_, rfl, trivial⟩⟩
    · obtain ⟨unwritten, joined, whole⟩ :=
        writeBounded_prefix writeBudget [] wire meets.writes
      have broke := @writeBounded_broken writeBudget [] wire meets.writes
      generalize writeBounded writeBudget [] wire meets.writes = wrote at *
      obtain ⟨out, ended⟩ := wrote
      have begins : out <+: wire := ⟨unwritten, joined⟩
      cases ended with
      | none => cases sends
      | some ended =>
          cases ended with
          | error error =>
              cases sends
              exact ⟨begins, .inl ⟨error, rfl, broke rfl⟩⟩
          | ok done =>
              simp only [Prod.mk.injEq] at sends
              obtain ⟨rfl, received⟩ := sends
              refine ⟨begins, ?_⟩
              obtain ⟨answer, ended, rfl⟩ := Option.map_eq_some_iff.mp received
              obtain ⟨told, came⟩ := receive_told ended
              cases answer with
              | error error => exact .inl ⟨error, rfl, told⟩
              | ok response =>
                  obtain ⟨raw, front, parsed⟩ := came response rfl
                  rw [whole rfl, List.append_nil] at joined
                  exact .inr ⟨response, raw, rfl, joined, front, parsed⟩

/-- A run is refused before anything goes out, or it sends from the payload and
fails on the way or is answered. -/
theorem runHook_cases {result : Except Failure Unit}
    (ran : runHook readJson call meets = (sent, some result)) :
    (sent = [] ∧ ∃ failure, result = .error failure ∧ failure.exitCode = 1) ∨
    ∃ wire, payload readJson call.args call.ppid meets.stdin = .ok wire ∧
      sent <+: wire ∧
      ((∃ error, result = .error (.exchange error) ∧ error.Broken) ∨
        ∃ response raw, result = finished (.ok response) ∧ sent = wire ∧
          raw <+: meets.reply ∧ parseReply raw = .ok response) := by
  unfold runHook at ran
  rcases prepare_cases (rfl : prepare readJson call meets = _) with
    ⟨failure, refused, code⟩ | ⟨path, wire, prepared, sends⟩
  · rw [refused] at ran
    cases ran
    exact .inl ⟨rfl, failure, rfl, code⟩
  · rw [prepared] at ran
    simp only [Prod.mk.injEq] at ran
    obtain ⟨rfl, ended⟩ := ran
    obtain ⟨answer, answered, rfl⟩ := Option.map_eq_some_iff.mp ended
    have exchanged : send path wire meets =
        ((send path wire meets).1, some answer) := by
      rw [← answered]
    rcases send_cases exchanged with ⟨nothing, kind, rfl⟩ | ⟨begins, how⟩
    · exact .inl ⟨nothing, _, rfl, rfl⟩
    · refine .inr ⟨wire, sends, begins, ?_⟩
      rcases how with ⟨error, rfl, broken⟩ | ⟨response, raw, rfl, whole, came⟩
      · exact .inl ⟨error, rfl, broken⟩
      · exact .inr ⟨response, raw, rfl, whole, came⟩

/-- The same of the whole program. -/
theorem main_cases {end' : Ending}
    (ended : main readJson ioText call meets = (sent, some end')) :
    (sent = [] ∧ ∃ failure logged,
      failure.exitCode = 1 ∧ end' = ending ioText logged (.error failure)) ∨
    ∃ wire result, payload readJson call.args call.ppid meets.stdin = .ok wire ∧
      sent <+: wire ∧ end' = ending ioText meets.logged result ∧
      ((∃ error, result = .error (.exchange error) ∧ error.Broken) ∨
        ∃ response raw, result = finished (.ok response) ∧ sent = wire ∧
          raw <+: meets.reply ∧ parseReply raw = .ok response) := by
  unfold main at ended
  split at ended
  · rename_i failure refused
    cases resolvePath_error refused
    cases ended
    exact .inl ⟨rfl, .noHome, false, rfl, rfl⟩
  · simp only [Prod.mk.injEq, Option.map_eq_some_iff] at ended
    obtain ⟨rfl, result, ran, rfl⟩ := ended
    have ran : runHook readJson call meets =
        ((runHook readJson call meets).1, some result) := by
      rw [← ran]
    rcases runHook_cases ran with
      ⟨nothing, failure, rfl, code⟩ | ⟨wire, sends, begins, how⟩
    · exact .inl ⟨nothing, failure, meets.logged, code, rfl⟩
    · exact .inr ⟨wire, result, sends, begins, rfl, how⟩

/-- What the operator and Claude are told after the connect. -/
theorem finished_cases {response : Response}
    (told : Told (.ok response)) :
    (response = .ok ∧ finished (.ok response) = .ok ()) ∨
    ∃ error, finished (.ok response) = .error (.exchange error) ∧
      error.Late ∧ response ≠ .ok := by
  cases response with
  | ok => exact .inl ⟨rfl, rfl⟩
  | backpressure =>
      exact .inr ⟨.backpressure503, rfl, trivial, fun same => by cases same⟩
  | daemonError reason =>
      exact .inr ⟨.daemonError400 reason, rfl, told, fun same => by cases same⟩

end Endings

/-! A hook whose daemon is not running. -/

end Bowerbird.Shim
