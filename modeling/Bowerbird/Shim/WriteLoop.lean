import Bowerbird.Shim.Socket

namespace Bowerbird.Shim

/-! The write loop, call by call.  A turn may find the buffer sent or the budget
spent, and then makes no call. -/

structure WriteCall where
  elapsed : Nat
  offered : List UInt8
  outcome : Outcome
  deriving Repr, DecidableEq

namespace WriteCall

/-- The bytes that the writer took. -/
def accepted (call : WriteCall) : List UInt8 :=
  match call.outcome with
  | .ready limit => call.offered.take limit
  | .failed _ _ => []

def isInterrupted (call : WriteCall) : Bool :=
  match call.outcome with
  | .failed .interrupted _ => true
  | _ => false

end WriteCall

structure WriteLog where
  calls : List WriteCall
  result : Option (Except Error Unit)
  deriving Repr, DecidableEq

namespace WriteLog

def accepted (log : WriteLog) : List UInt8 :=
  log.calls.flatMap WriteCall.accepted

def ended (result : Except Error Unit) : WriteLog :=
  { calls := [], result := some result }

def after (call : WriteCall) (log : WriteLog) : WriteLog :=
  { log with calls := call :: log.calls }

end WriteLog

/-- The calls of `writeBounded` for what is still unsent. -/
def writeCalls (budget : Nat) (unsent : List UInt8) : List Attempt → WriteLog
  | [] =>
      { calls := [], result := if unsent.isEmpty then some (.ok ()) else none }
  | attempt :: rest =>
      if unsent.isEmpty then .ended (.ok ())
      else if budget ≤ attempt.elapsed then
        .ended (.error
          (.timeout .write (asMillis budget) (asMillis attempt.elapsed)))
      else
        let call : WriteCall := {
          elapsed := attempt.elapsed
          offered := unsent.take sendChunkBytes
          outcome := attempt.outcome }
        match attempt.outcome with
        | .ready limit =>
            let count := min limit (min sendChunkBytes unsent.length)
            if count = 0 then
              .after call (.ended (.error (.socketIo .writeZero)))
            else .after call (writeCalls budget (unsent.drop count) rest)
        | .failed .interrupted _ =>
            .after call (writeCalls budget unsent rest)
        | .failed kind elapsed =>
            .after call
              (.ended (.error (classify .write budget elapsed kind)))

@[simp] theorem WriteLog.accepted_ended (result : Except Error Unit) :
    (WriteLog.ended result).accepted = [] :=
  rfl

@[simp] theorem WriteLog.accepted_after (call : WriteCall) (log : WriteLog) :
    (log.after call).accepted = call.accepted ++ log.accepted :=
  List.flatMap_cons

theorem accepted_ready (elapsed limit : Nat) (unsent : List UInt8) :
    WriteCall.accepted {
      elapsed, offered := unsent.take sendChunkBytes, outcome := .ready limit } =
      unsent.take (min limit (min sendChunkBytes unsent.length)) := by
  rw [WriteCall.accepted, ← List.take_take, ← List.take_take, List.take_length]

/-- The bytes that go out are those the calls have taken. -/
theorem writeBounded_eq (budget : Nat) (written unsent : List UInt8)
    (attempts : List Attempt) :
    writeBounded budget written unsent attempts =
      (written ++ (writeCalls budget unsent attempts).accepted,
        (writeCalls budget unsent attempts).result) := by
  induction attempts generalizing written unsent with
  | nil => simp [writeBounded, writeCalls, WriteLog.accepted]
  | cons attempt rest induction =>
      rw [writeBounded, writeCalls]
      split
      · rw [WriteLog.accepted_ended, List.append_nil]
        rfl
      · split
        · rw [WriteLog.accepted_ended, List.append_nil]
          rfl
        · cases attempt.outcome with
          | ready limit =>
              dsimp only
              split
              · rename_i none
                rw [WriteLog.accepted_after, accepted_ready, none,
                  List.take_zero, WriteLog.accepted_ended, List.append_nil,
                  List.append_nil]
                rfl
              · rw [induction, WriteLog.accepted_after, accepted_ready,
                  List.append_assoc]
                rfl
          | failed kind elapsed =>
              cases kind with
              | interrupted =>
                  dsimp only
                  rw [induction, WriteLog.accepted_after]
                  rfl
              | _ =>
                  dsimp only
                  rw [WriteLog.accepted_after, WriteLog.accepted_ended,
                    List.append_nil, WriteCall.accepted, List.append_nil]
                  rfl

/-- A call as the loop makes it, with so much unsent. -/
structure Offers (budget : Nat) (unsent : List UInt8) (call : WriteCall) :
    Prop where
  timely : call.elapsed < budget
  offered : call.offered = unsent.take sendChunkBytes
  filled : call.offered ≠ []

theorem Offers.accepted {budget : Nat} {unsent : List UInt8} {call : WriteCall}
    (offers : Offers budget unsent call) :
    call.accepted ++ unsent.drop call.accepted.length = unsent := by
  have begins : call.accepted <+: unsent := by
    unfold WriteCall.accepted
    split
    · rw [offers.offered]
      exact (List.take_prefix _ _).trans (List.take_prefix _ _)
    · exact List.nil_prefix
  obtain ⟨rest, whole⟩ := begins
  rw [← whole, List.drop_left]

/-- The calls of a loop: each is offered what the ones before it have left. -/
inductive Sends (budget : Nat) : List UInt8 → List WriteCall → List UInt8 → Prop
  | done (unsent : List UInt8) : Sends budget unsent [] unsent
  | call {unsent left : List UInt8} {call : WriteCall} {calls : List WriteCall}
      (offers : Offers budget unsent call)
      (sends : Sends budget (unsent.drop call.accepted.length) calls left) :
      Sends budget unsent (call :: calls) left

namespace Sends

variable {budget : Nat} {unsent left : List UInt8} {calls : List WriteCall}

theorem accepted (sends : Sends budget unsent calls left) :
    calls.flatMap WriteCall.accepted ++ left = unsent := by
  induction sends with
  | done unsent => rfl
  | call offers sends induction =>
      rw [List.flatMap_cons, List.append_assoc, induction, offers.accepted]

theorem split {front back : List WriteCall} {call : WriteCall}
    (sends : Sends budget unsent (front ++ call :: back) left) :
    Offers budget (unsent.drop (front.flatMap WriteCall.accepted).length)
      call := by
  induction front generalizing unsent with
  | nil =>
      cases sends with
      | call offers sends => exact offers
  | cons first front induction =>
      cases sends with
      | call offers sends =>
          rw [List.flatMap_cons, List.length_append, ← List.drop_drop]
          exact induction sends

theorem length_accepted_le (sends : Sends budget unsent calls left)
    {call : WriteCall} (made : call ∈ calls) :
    call.accepted.length ≤ unsent.length := by
  obtain ⟨front, back, rfl⟩ := List.append_of_mem made
  have whole := congrArg List.length sends.accepted
  rw [List.flatMap_append, List.flatMap_cons] at whole
  simp only [List.length_append] at whole
  omega

end Sends

/-- What a loop that ended so has left unsent. -/
def Leaves (left : List UInt8) : Option (Except Error Unit) → Prop
  | some (.ok _) => left = []
  | some (.error _) | none => left ≠ []

theorem writeCalls_sends (budget : Nat) (unsent : List UInt8)
    (attempts : List Attempt) :
    ∃ left, Sends budget unsent (writeCalls budget unsent attempts).calls left ∧
      Leaves left (writeCalls budget unsent attempts).result := by
  induction attempts generalizing unsent with
  | nil =>
      refine ⟨unsent, .done unsent, ?_⟩
      cases unsent with
      | nil => rfl
      | cons byte rest => exact List.cons_ne_nil _ _
  | cons attempt rest induction =>
      rw [writeCalls]
      split
      · rename_i empty
        exact ⟨unsent, .done unsent, List.isEmpty_iff.mp empty⟩
      · rename_i more
        have filled : unsent ≠ [] := fun empty =>
          more (List.isEmpty_iff.mpr empty)
        split
        · exact ⟨unsent, .done unsent, filled⟩
        · rename_i inTime
          have offers (outcome : Outcome) : Offers budget unsent {
              elapsed := attempt.elapsed
              offered := unsent.take sendChunkBytes
              outcome } := by
            refine ⟨Nat.not_le.mp inTime, rfl, ?_⟩
            cases unsent with
            | nil => exact absurd rfl filled
            | cons byte rest => exact List.cons_ne_nil _ _
          cases attempt.outcome with
          | ready limit =>
              dsimp only
              have taken := congrArg List.length
                (accepted_ready attempt.elapsed limit unsent)
              rw [List.length_take, Nat.min_eq_left (by omega)] at taken
              split
              · rename_i none
                refine ⟨unsent, .call (offers (.ready limit)) ?_, filled⟩
                rw [taken, none]
                exact .done unsent
              · obtain ⟨left, sends, leaves⟩ := induction (unsent.drop
                  (min limit (min sendChunkBytes unsent.length)))
                refine ⟨left, .call (offers (.ready limit)) ?_, leaves⟩
                rw [taken]
                exact sends
          | failed kind elapsed =>
              cases kind with
              | interrupted =>
                  obtain ⟨left, sends, leaves⟩ := induction unsent
                  exact ⟨left, .call (offers _) sends, leaves⟩
              | _ => exact ⟨unsent, .call (offers _) (.done unsent), filled⟩

/-- A loop has ended by the first turn that finds the budget spent. -/
theorem writeCalls_ends {budget : Nat} (unsent : List UInt8)
    {attempts : List Attempt}
    (spent : ∃ attempt ∈ attempts, budget ≤ attempt.elapsed) :
    (writeCalls budget unsent attempts).result ≠ none := by
  induction attempts generalizing unsent with
  | nil =>
      obtain ⟨attempt, member, _⟩ := spent
      cases member
  | cons attempt rest induction =>
      rw [writeCalls]
      split
      · exact Option.some_ne_none _
      · split
        · exact Option.some_ne_none _
        · rename_i inTime
          have later : ∃ attempt ∈ rest, budget ≤ attempt.elapsed := by
            obtain ⟨late, member, spent⟩ := spent
            rcases List.mem_cons.mp member with rfl | member
            · exact absurd spent inTime
            · exact ⟨late, member, spent⟩
          cases attempt.outcome with
          | ready limit =>
              dsimp only
              split
              · exact Option.some_ne_none _
              · exact induction _ later
          | failed kind elapsed =>
              cases kind with
              | interrupted => exact induction unsent later
              | _ => exact Option.some_ne_none _

theorem writeCalls_nil (budget : Nat) (attempts : List Attempt) :
    writeCalls budget [] attempts = .ended (.ok ()) := by
  cases attempts <;> rfl

/-- A buffer that goes in one call goes in the only one that is not
interrupted. -/
theorem writeCalls_single {budget : Nat} {unsent : List UInt8}
    {attempts : List Attempt} {call : WriteCall} (filled : unsent ≠ [])
    (made : call ∈ (writeCalls budget unsent attempts).calls)
    (whole : call.accepted = unsent) :
    (writeCalls budget unsent attempts).calls.filter (!·.isInterrupted) = [call] ∧
      (writeCalls budget unsent attempts).result = some (.ok ()) := by
  induction attempts with
  | nil => cases made
  | cons attempt rest induction =>
      rw [writeCalls] at made ⊢
      split at made
      · cases made
      · rename_i more
        rw [if_neg more]
        split at made
        · cases made
        · rename_i inTime
          rw [if_neg inTime]
          cases went : attempt.outcome with
          | ready limit =>
              simp only [went] at made ⊢
              have taken := accepted_ready attempt.elapsed limit unsent
              split at made
              · rename_i none
                rw [none, List.take_zero] at taken
                rcases List.mem_cons.mp made with rfl | made
                · exact absurd (whole.symm.trans taken) filled
                · cases made
              · rename_i some
                rw [if_neg some]
                rcases List.mem_cons.mp made with rfl | made
                · rw [taken, List.take_eq_self_iff] at whole
                  rw [List.drop_of_length_le whole, writeCalls_nil]
                  exact ⟨rfl, rfl⟩
                · obtain ⟨left, sends, _⟩ := writeCalls_sends budget
                    (unsent.drop (min limit
                      (min sendChunkBytes unsent.length))) rest
                  have short := sends.length_accepted_le made
                  rw [whole, List.length_drop] at short
                  have long := List.length_pos_iff.mpr filled
                  omega
          | failed kind elapsed =>
              cases kind with
              | interrupted =>
                  simp only [went] at made ⊢
                  rcases List.mem_cons.mp made with rfl | made
                  · exact absurd whole.symm filled
                  · exact induction made
              | _ =>
                  simp only [went] at made
                  rcases List.mem_cons.mp made with rfl | made
                  · exact absurd whole.symm filled
                  · cases made

/-- What a write loop does with a buffer, whatever the writer and the clock. -/
structure Bounded (budget : Nat) (buf : List UInt8) (log : WriteLog) : Prop where
  whole : log.result = some (.ok ()) → log.accepted = buf
  part : ∀ error, log.result = some (.error error) →
    log.accepted <+: buf ∧ log.accepted ≠ buf
  offered : ∀ front call back, log.calls = front ++ call :: back →
    call.offered ≠ [] ∧ call.offered.length ≤ sendChunkBytes ∧
      call.offered = (buf.drop
        (front.flatMap WriteCall.accepted).length).take sendChunkBytes
  timely : ∀ call ∈ log.calls, call.elapsed < budget
  single : buf ≠ [] → ∀ call ∈ log.calls, call.accepted = buf →
    log.calls.filter (!·.isInterrupted) = [call] ∧ log.result = some (.ok ())

/-- The write loop sends the buffer, in order and each byte once, or a proper
beginning of it, and is over once the clock has reached the budget. -/
theorem write_bounded (budget : Nat) (buf : List UInt8)
    (attempts : List Attempt) :
    writeBounded budget [] buf attempts =
        ((writeCalls budget buf attempts).accepted,
          (writeCalls budget buf attempts).result) ∧
      Bounded budget buf (writeCalls budget buf attempts) ∧
      ((∃ attempt ∈ attempts, budget ≤ attempt.elapsed) →
        (writeCalls budget buf attempts).result ≠ none) := by
  obtain ⟨left, sends, leaves⟩ := writeCalls_sends budget buf attempts
  have joined := sends.accepted
  refine ⟨writeBounded_eq budget [] buf attempts, ?_, writeCalls_ends buf⟩
  exact {
    whole := by
      intro ended
      rw [ended] at leaves
      rw [leaves, List.append_nil] at joined
      exact joined
    part := by
      intro error ended
      rw [ended] at leaves
      refine ⟨⟨left, joined⟩, fun same => leaves ?_⟩
      exact List.append_right_eq_self.mp (joined.trans same.symm)
    offered := by
      intro front call back split
      rw [split] at sends
      have offers := sends.split
      refine ⟨offers.filled, ?_, offers.offered⟩
      rw [offers.offered]
      exact List.length_take_le _ _
    timely := by
      intro call made
      obtain ⟨front, back, split⟩ := List.append_of_mem made
      rw [split] at sends
      exact sends.split.timely
    single := fun filled call made accepted =>
      writeCalls_single filled made accepted }

/-- A call that takes all of a buffer need not be the only one. -/
theorem write_calls_not_one :
    ¬ ∀ budget buf attempts, buf.length ≤ sendChunkBytes →
      (writeCalls budget buf attempts).result = some (.ok ()) →
      (∃ call ∈ (writeCalls budget buf attempts).calls, call.accepted = buf) →
        (writeCalls budget buf attempts).calls.length = 1 := by
  intro one
  have interrupted := one writeBudget [7]
    [⟨0, .failed .interrupted 0⟩, ⟨1, .ready 1⟩] (by decide) (by decide)
    (by decide)
  exact absurd interrupted (by decide)

end Bowerbird.Shim
