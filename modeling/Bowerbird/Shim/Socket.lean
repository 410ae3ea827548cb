import Bowerbird.Foundation.Utf8
import Mathlib.Data.List.TakeWhile

namespace Bowerbird.Shim

open Foundation

/-! The shim's end of the ingest socket.  Each half of the exchange is a loop of
syscalls under one budget; durations are in nanoseconds. -/

inductive ErrorKind where
  | interrupted
  | wouldBlock
  | timedOut
  | writeZero
  | other (code : Nat)
  deriving Repr, DecidableEq

inductive TimeoutOp where
  | write
  | read
  deriving Repr, DecidableEq

inductive Error where
  | badArgs (text : String)
  | stdinTooLarge (capBytes : Nat)
  | stdinEmpty
  | stdinJson (text : String)
  | stdinNotJsonObject
  | socketIo (kind : ErrorKind)
  | timeout (op : TimeoutOp) (budgetMs elapsedMs : Nat)
  | badResponse (text : String)
  | backpressure503
  | daemonError400 (reason : String)
  deriving Repr, DecidableEq

inductive Response where
  | ok
  | backpressure
  | daemonError (reason : String)
  deriving Repr, DecidableEq

def ofMillis (millis : Nat) : Nat :=
  millis * 1000000

def asMillis (duration : Nat) : Nat :=
  duration / 1000000

def writeBudget : Nat :=
  ofMillis 2

def readBudget : Nat :=
  ofMillis 3

def sendChunkBytes : Nat :=
  8192

def replyBufBytes : Nat :=
  4096

/-- An expired socket timeout comes as either of two kinds. -/
def classify (op : TimeoutOp) (budget elapsed : Nat) : ErrorKind → Error
  | .wouldBlock | .timedOut =>
      .timeout op (asMillis budget) (asMillis elapsed)
  | kind => .socketIo kind

/-! A turn of a loop: the clock at its head, and how the syscall goes should the
turn come to it.  A syscall that is ready moves at most `limit` bytes. -/

inductive Outcome where
  | ready (limit : Nat)
  | failed (kind : ErrorKind) (elapsed : Nat)
  deriving Repr, DecidableEq

structure Attempt where
  elapsed : Nat
  outcome : Outcome
  deriving Repr, DecidableEq

/-- Moves something, or is only interrupted. -/
def Outcome.goesOn : Outcome → Bool
  | ready limit => 0 < limit
  | failed kind _ => kind = .interrupted

namespace Attempt

def Prompt (budget : Nat) (attempt : Attempt) : Prop :=
  attempt.elapsed < budget ∧ attempt.outcome.goesOn = true

instance (budget : Nat) (attempt : Attempt) :
    Decidable (attempt.Prompt budget) :=
  inferInstanceAs (Decidable (_ ∧ _))

def isReady (attempt : Attempt) : Bool :=
  match attempt.outcome with
  | .ready _ => true
  | .failed _ _ => false

end Attempt

/-! Writing. -/

/-- What has gone out after these turns, with how the loop ended, if it has. -/
def writeBounded (budget : Nat) (written unsent : List UInt8) :
    List Attempt → List UInt8 × Option (Except Error Unit)
  | [] => (written, if unsent.isEmpty then some (.ok ()) else none)
  | attempt :: rest =>
      if unsent.isEmpty then (written, some (.ok ()))
      else if budget ≤ attempt.elapsed then
        (written, some (.error
          (.timeout .write (asMillis budget) (asMillis attempt.elapsed))))
      else
        match attempt.outcome with
        | .ready limit =>
            let count := min limit (min sendChunkBytes unsent.length)
            if count = 0 then (written, some (.error (.socketIo .writeZero)))
            else
              writeBounded budget (written ++ unsent.take count)
                (unsent.drop count) rest
        | .failed .interrupted _ => writeBounded budget written unsent rest
        | .failed kind elapsed =>
            (written, some (.error (classify .write budget elapsed kind)))

/-- However the writes go, a beginning of the bytes has gone out, and all of
them when the loop reports no error. -/
theorem writeBounded_prefix (budget : Nat) (written unsent : List UInt8)
    (attempts : List Attempt) :
    ∃ unwritten,
      (writeBounded budget written unsent attempts).1 ++ unwritten =
        written ++ unsent ∧
      ((writeBounded budget written unsent attempts).2 = some (.ok ()) →
        unwritten = []) := by
  induction attempts generalizing written unsent with
  | nil =>
      refine ⟨unsent, rfl, ?_⟩
      intro ended
      cases unsent with
      | nil => rfl
      | cons byte rest => cases ended
  | cons attempt rest induction =>
      rw [writeBounded]
      split
      · rename_i empty
        exact ⟨unsent, rfl, fun _ => List.isEmpty_iff.mp empty⟩
      · split
        · refine ⟨unsent, rfl, ?_⟩
          intro ended
          cases ended
        · split
          · rename_i limit _
            simp only
            split
            · refine ⟨unsent, rfl, ?_⟩
              intro ended
              cases ended
            · obtain ⟨unwritten, joined, whole⟩ := induction
                (written ++ unsent.take
                  (min limit (min sendChunkBytes unsent.length)))
                (unsent.drop (min limit (min sendChunkBytes unsent.length)))
              refine ⟨unwritten, ?_, whole⟩
              rw [joined, List.append_assoc, List.take_append_drop]
          · exact induction written unsent
          · refine ⟨unsent, rfl, ?_⟩
            intro ended
            cases ended

/-! Reading. -/

/-- The text of a reply that fills the buffer without a newline. -/
def overflowText (buf : List UInt8) : String :=
  Utf8.lossy (buf.take 64) ++ "... (" ++ toString buf.length ++
    " bytes, no newline)"

/-- The bytes in the buffer once the loop ends, from those it has and those that
the peer sends before it closes; nothing while the loop waits for a turn. -/
def readBounded (budget size : Nat) (filled stream : List UInt8) :
    List Attempt → Option (Except Error (List UInt8))
  | [] => none
  | attempt :: rest =>
      if budget ≤ attempt.elapsed then
        some (.error
          (.timeout .read (asMillis budget) (asMillis attempt.elapsed)))
      else if size ≤ filled.length then
        some (.error (.badResponse (overflowText filled)))
      else
        match attempt.outcome with
        | .ready limit =>
            -- a read moves no more than the buffer has room for
            let count := min limit (size - filled.length)
            let chunk := stream.take count
            if chunk.isEmpty then some (.ok filled)
            else if chunk.contains Utf8.newline then
              some (.ok (filled ++ chunk))
            else
              readBounded budget size (filled ++ chunk) (stream.drop count) rest
        | .failed .interrupted _ => readBounded budget size filled stream rest
        | .failed kind elapsed =>
            some (.error (classify .read budget elapsed kind))

def trimEndReturns (text : String) : String :=
  String.ofList (text.toList.rdropWhile (· = '\r'))

def stripPrefix (start text : String) : Option String :=
  (start.toList.isPrefixOf? text.toList).map String.ofList

/-- The bytes up to the first newline, or all of them. -/
def replyLine (raw : List UInt8) : List UInt8 :=
  raw.takeWhile (· ≠ Utf8.newline)

def emptyReplyText : String :=
  "empty reply (daemon closed the connection without a status)"

def parseStatus (trimmed : String) : Except Error Response :=
  if trimmed.isEmpty then .error (.badResponse emptyReplyText)
  else if trimmed = "200" then .ok .ok
  else if trimmed = "503" then .ok .backpressure
  else
    match stripPrefix "400 " trimmed with
    | some reason => .ok (.daemonError reason)
    | none => .error (.badResponse trimmed)

def parseReply (raw : List UInt8) : Except Error Response :=
  let line := replyLine raw
  match Utf8.decode line with
  | none => .error (.badResponse (Utf8.lossy line))
  | some text => parseStatus (trimEndReturns text)

/-- The second half of the exchange: a reply is read and parsed. -/
def receive (stream : List UInt8) (attempts : List Attempt) :
    Option (Except Error Response) :=
  (readBounded readBudget replyBufBytes [] stream attempts).map
    (·.bind parseReply)

/-! What a reply comes to is a function of its line. -/

theorem newline_not_mem_replyLine (raw : List UInt8) :
    Utf8.newline ∉ replyLine raw := by
  intro member
  simpa using List.mem_takeWhile_imp member

theorem length_replyLine_lt {raw : List UInt8} (framed : Utf8.newline ∈ raw) :
    (replyLine raw).length < raw.length := by
  have begins := List.takeWhile_prefix (· ≠ Utf8.newline) (l := raw)
  apply Nat.lt_of_le_of_ne begins.length_le
  intro same
  apply newline_not_mem_replyLine raw
  unfold replyLine
  rwa [begins.eq_of_length same]

theorem replyLine_append {raw : List UInt8} (rest : List UInt8)
    (framed : Utf8.newline ∈ raw) :
    replyLine (raw ++ rest) = replyLine raw := by
  have short := length_replyLine_lt framed
  unfold replyLine at short ⊢
  rw [List.takeWhile_append, if_neg (by omega)]

theorem replyLine_self {raw : List UInt8} (open' : Utf8.newline ∉ raw) :
    replyLine raw = raw := by
  apply List.takeWhile_eq_self_iff.mpr
  intro byte member
  simpa using fun same : byte = Utf8.newline => open' (same ▸ member)

theorem length_le_replyLine {filled : List UInt8} (stream : List UInt8)
    (open' : Utf8.newline ∉ filled) :
    filled.length ≤ (replyLine (filled ++ stream)).length := by
  unfold replyLine
  have whole : ∀ byte ∈ filled, (decide (byte ≠ Utf8.newline)) = true := by
    intro byte member
    simpa using fun same : byte = Utf8.newline => open' (same ▸ member)
  rw [List.takeWhile_append_of_pos whole, List.length_append]
  exact Nat.le_add_right _ _

theorem replyLine_take {raw : List UInt8} {size : Nat}
    (long : size ≤ (replyLine raw).length) :
    (replyLine raw).take size = raw.take size := by
  obtain ⟨rest, whole⟩ := List.takeWhile_prefix (· ≠ Utf8.newline) (l := raw)
  change replyLine raw ++ rest = raw at whole
  have cut := congrArg (List.take size) whole
  rwa [List.take_append_of_le_length long] at cut

theorem parseReply_line {left right : List UInt8}
    (same : replyLine left = replyLine right) :
    parseReply left = parseReply right := by
  unfold parseReply
  rw [same]

def readReply (line : List UInt8) : Except Error Response :=
  if replyBufBytes ≤ line.length then
    .error (.badResponse (overflowText (line.take replyBufBytes)))
  else parseReply line

/-- What the buffer holds in the end has the line of all that was sent, unless
that line fills the buffer. -/
theorem readBounded_prompt {budget size : Nat} {filled stream : List UInt8}
    {attempts : List Attempt}
    (prompt : ∀ attempt ∈ attempts, attempt.Prompt budget)
    (enough : (replyLine (filled ++ stream)).length <
      filled.length + attempts.countP Attempt.isReady)
    (open' : Utf8.newline ∉ filled) (room : filled.length ≤ size) :
    if size ≤ (replyLine (filled ++ stream)).length then
      readBounded budget size filled stream attempts =
        some (.error (.badResponse
          (overflowText ((replyLine (filled ++ stream)).take size))))
    else ∃ buf, replyLine buf = replyLine (filled ++ stream) ∧
      readBounded budget size filled stream attempts = some (.ok buf) := by
  induction attempts generalizing filled stream with
  | nil =>
      have known := length_le_replyLine stream open'
      simp only [List.countP_nil] at enough
      omega
  | cons attempt rest induction =>
      obtain ⟨inTime, outcome⟩ := prompt attempt List.mem_cons_self
      have prompt' : ∀ attempt ∈ rest, attempt.Prompt budget :=
        fun attempt member => prompt attempt (List.mem_cons_of_mem _ member)
      rw [readBounded, if_neg (Nat.not_le.mpr inTime)]
      by_cases full : size ≤ filled.length
      · have long := full.trans (length_le_replyLine stream open')
        rw [if_pos long, if_pos full, replyLine_take long,
          List.take_append_of_le_length full, List.take_of_length_le room]
      · rw [if_neg full]
        cases went : attempt.outcome with
        | failed kind elapsed =>
            simp only [went, Outcome.goesOn, decide_eq_true_eq] at outcome
            subst outcome
            simp only
            apply induction prompt' _ open' room
            rw [List.countP_cons_of_neg (by simp [Attempt.isReady, went])]
              at enough
            exact enough
        | ready limit =>
            simp only [went, Outcome.goesOn, decide_eq_true_eq] at outcome
            simp only
            have some' : 0 < min limit (size - filled.length) := by omega
            generalize sized : min limit (size - filled.length) = count at some' ⊢
            have fits : filled.length + (stream.take count).length ≤ size := by
              rw [List.length_take]
              omega
            have joined : filled ++ stream.take count ++ stream.drop count =
                filled ++ stream := by
              rw [List.append_assoc, List.take_append_drop]
            by_cases ended : (stream.take count).isEmpty = true
            · rw [if_pos ended]
              have empty : stream = [] := by
                cases stream with
                | nil => rfl
                | cons byte rest =>
                    cases count with
                    | zero => cases some'
                    | succ count => cases ended
              subst empty
              rw [List.append_nil, replyLine_self open', if_neg full]
              exact ⟨filled, replyLine_self open', rfl⟩
            · rw [if_neg ended]
              by_cases framed : (stream.take count).contains Utf8.newline = true
              · rw [if_pos framed]
                have inside : Utf8.newline ∈ filled ++ stream.take count := by
                  apply List.mem_append_right
                  simpa using framed
                have line : replyLine (filled ++ stream) =
                    replyLine (filled ++ stream.take count) := by
                  rw [← joined]
                  exact replyLine_append _ inside
                have short : (replyLine (filled ++ stream.take count)).length <
                    (filled ++ stream.take count).length :=
                  length_replyLine_lt inside
                rw [List.length_append] at short
                rw [line, if_neg (by omega)]
                exact ⟨_, rfl, rfl⟩
              · rw [if_neg framed, ← joined]
                rw [← joined, List.countP_cons_of_pos
                  (by simp [Attempt.isReady, went])] at enough
                apply induction prompt'
                · have grown : 0 < (stream.take count).length := by
                    apply List.length_pos_iff.mpr
                    simpa using ended
                  rw [List.length_append]
                  omega
                · rw [List.mem_append, not_or]
                  exact ⟨open', by simpa using framed⟩
                · rw [List.length_append]
                  exact fits

theorem readBounded_append {budget size : Nat} {filled stream : List UInt8}
    {attempts : List Attempt} {result : Except Error (List UInt8)}
    (more : List Attempt)
    (ended : readBounded budget size filled stream attempts = some result) :
    readBounded budget size filled stream (attempts ++ more) = some result := by
  induction attempts generalizing filled stream with
  | nil => cases ended
  | cons attempt rest induction =>
      rw [List.cons_append]
      unfold readBounded at ended ⊢
      split at ended
      · rename_i late
        rwa [if_pos late]
      · rename_i inTime
        rw [if_neg inTime]
        split at ended
        · rename_i full
          rwa [if_pos full]
        · rename_i room
          rw [if_neg room]
          cases went : attempt.outcome with
          | failed kind elapsed =>
              simp only [went] at ended ⊢
              cases kind with
              | interrupted => exact induction ended
              | _ => exact ended
          | ready limit =>
              simp only [went] at ended ⊢
              split at ended
              · rename_i closed
                rwa [if_pos closed]
              · rename_i opened
                rw [if_neg opened]
                split at ended
                · rename_i framed
                  rwa [if_pos framed]
                · rename_i unframed
                  rw [if_neg unframed]
                  exact induction ended

/-- With turns enough an exchange ends in time, with what its line says. -/
theorem receive_enough {stream : List UInt8} {attempts : List Attempt}
    (prompt : ∀ attempt ∈ attempts, attempt.Prompt readBudget)
    (enough : (replyLine stream).length < attempts.countP Attempt.isReady) :
    receive stream attempts = some (readReply (replyLine stream)) := by
  have read := @readBounded_prompt readBudget replyBufBytes [] stream attempts
    prompt (by simpa using enough) (by simp) (by simp)
  rw [List.nil_append] at read
  unfold receive readReply
  split at read
  · rename_i long
    rw [if_pos long, read]
    rfl
  · rename_i short
    obtain ⟨buf, line, read⟩ := read
    rw [if_neg short, read]
    have same : parseReply buf = parseReply (replyLine stream) := by
      apply parseReply_line
      rw [line]
      exact (replyLine_self (newline_not_mem_replyLine stream)).symm
    exact congrArg some same

/-- However the bytes arrive and whatever follows the newline, an exchange that
ends in time ends with what its line says. -/
theorem receive_prompt {stream : List UInt8} {attempts : List Attempt}
    (prompt : ∀ attempt ∈ attempts, attempt.Prompt readBudget)
    (ended : (receive stream attempts).isSome = true) :
    receive stream attempts = some (readReply (replyLine stream)) := by
  let more := List.replicate ((replyLine stream).length + 1)
    (Attempt.mk 0 (.ready 1))
  have longer : receive stream (attempts ++ more) =
      receive stream attempts := by
    unfold receive at ended ⊢
    cases read : readBounded readBudget replyBufBytes [] stream attempts with
    | none => simp [read] at ended
    | some result => rw [readBounded_append more read]
  rw [← longer]
  apply receive_enough
  · intro attempt member
    rcases List.mem_append.mp member with member | member
    · exact prompt attempt member
    · rw [List.eq_of_mem_replicate member]
      decide
  · rw [List.countP_append, List.countP_replicate]
    simp only [Attempt.isReady, if_true]
    omega

end Bowerbird.Shim
