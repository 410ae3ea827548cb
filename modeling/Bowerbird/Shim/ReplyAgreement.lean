import Bowerbird.Ingest.Reply
import Bowerbird.Shim.Socket

namespace Bowerbird.Shim

open Protocol Foundation Ingest

/-! The two ends of the ingest socket agree on every reply, though they share no
code: the daemon counts characters and the shim counts bytes. -/

def response : Reply → Response
  | .accepted => .ok
  | .unavailable => .backpressure
  | .badRequest reason => .daemonError reason

theorem trimEndReturns_unbroken {text : String} (unbroken : Unbroken text) :
    trimEndReturns text = text := by
  have last : text.toList.rdropWhile (· = '\r') = text.toList := by
    apply List.rdropWhile_eq_self_iff.mpr
    intro some'
    simpa using (unbroken _ (List.getLast_mem some')).2
  rw [trimEndReturns, last, String.ofList_toList]

theorem stripPrefix_append (start rest : String) :
    stripPrefix start (start ++ rest) = some rest := by
  have stripped : start.toList.isPrefixOf? (start.toList ++ rest.toList) =
      some rest.toList := by
    induction start.toList with
    | nil => rfl
    | cons char chars induction =>
        rw [List.cons_append, List.isPrefixOf?, if_pos BEq.rfl, induction]
  rw [stripPrefix, String.toList_append, stripped, Option.map_some,
    String.ofList_toList]

theorem parseStatus_status (reply : Reply) :
    parseStatus reply.status = .ok (response reply) := by
  cases reply with
  | accepted => rfl
  | unavailable => rfl
  | badRequest reason =>
      have chars : ("400 " ++ reason).toList =
          '4' :: '0' :: '0' :: ' ' :: reason.toList :=
        String.toList_append
      have some' : ("400 " ++ reason).isEmpty = false := by
        apply Bool.eq_false_iff.mpr
        intro empty
        rw [String.isEmpty_iff.mp empty] at chars
        cases chars
      have notOk : "400 " ++ reason ≠ "200" := by
        intro same
        rw [same] at chars
        cases chars
      have notFull : "400 " ++ reason ≠ "503" := by
        intro same
        rw [same] at chars
        cases chars
      rw [Reply.status, parseStatus, some', if_neg Bool.false_ne_true,
        if_neg notOk, if_neg notFull, stripPrefix_append]
      rfl

/-- A reply's line, read whole, is the reply. -/
theorem readReply_status {reply : Reply} (unbroken : Unbroken reply.status)
    (short : (Utf8.encode reply.status).length < replyBufBytes) :
    readReply (Utf8.encode reply.status) = .ok (response reply) := by
  have open' : Utf8.newline ∉ Utf8.encode reply.status := by
    intro member
    exact (unbroken _ (Utf8.newline_mem_encode.mp member)).1 rfl
  rw [readReply, if_neg (Nat.not_le.mpr short), parseReply,
    replyLine_self open', Utf8.decode_encode]
  simp only
  rw [trimEndReturns_unbroken unbroken, parseStatus_status]

/-- Whatever the handler answers is one line that fits the shim's buffer, and the
shim reads it as what it is, however it is cut and whatever follows; and what it
makes of any reply depends on the line alone. -/
theorem shim_reads_every_reply {serde : Serde}
    {toolReactions : Option (List (String × String))}
    {channel next : Channel IngestItem} {received : Received} {reply : Reply}
    (replied : handle serde toolReactions channel received =
      (next, some reply)) :
    (∃ line, Utf8.encode reply.wire = line ++ [Utf8.newline] ∧
      Utf8.newline ∉ line) ∧
    (Utf8.encode reply.wire).length ≤ replyBufBytes ∧
    (∀ tail attempts, (∀ attempt ∈ attempts, attempt.Prompt readBudget) →
      let stream := Utf8.encode reply.wire ++ tail
      ((receive stream attempts).isSome = true →
        receive stream attempts = some (.ok (response reply))) ∧
      ((Utf8.encode reply.wire).length ≤ attempts.countP Attempt.isReady →
        (receive stream attempts).isSome = true)) ∧
    ∀ stream attempts, (∀ attempt ∈ attempts, attempt.Prompt readBudget) →
      ((receive stream attempts).isSome = true →
        receive stream attempts = some (readReply (replyLine stream))) ∧
      ((replyLine stream).length < attempts.countP Attempt.isReady →
        (receive stream attempts).isSome = true) := by
  obtain ⟨unbroken, short⟩ := handle_status replied
  have open' : Utf8.newline ∉ Utf8.encode reply.status := by
    intro member
    exact (unbroken _ (Utf8.newline_mem_encode.mp member)).1 rfl
  have bytes : (Utf8.encode reply.status).length ≤ 4 * 554 :=
    (Utf8.length_encode_le reply.status).trans (Nat.mul_le_mul_left 4 short)
  have fits : (Utf8.encode reply.status).length < replyBufBytes :=
    Nat.lt_of_le_of_lt bytes (by decide)
  refine ⟨⟨_, reply.encode_wire, open'⟩, ?_, ?_, ?_⟩
  · rw [reply.encode_wire, List.length_append, List.length_singleton]
    exact fits
  · intro tail attempts prompt
    have line : replyLine (Utf8.encode reply.wire ++ tail) =
        Utf8.encode reply.status := by
      rw [replyLine_append tail (by simp [reply.encode_wire]),
        reply.encode_wire, replyLine, List.takeWhile_append_of_pos]
      · simp
      · intro byte member
        simpa using fun same : byte = Utf8.newline => open' (same ▸ member)
    constructor
    · intro ended
      rw [receive_prompt prompt ended, line, readReply_status unbroken fits]
    · intro enough
      rw [reply.encode_wire, List.length_append, List.length_singleton] at enough
      rw [receive_enough prompt (by rw [line]; exact enough)]
      rfl
  · intro stream attempts prompt
    refine ⟨receive_prompt prompt, ?_⟩
    intro enough
    rw [receive_enough prompt enough]
    rfl

/-- A JSON library that reads nothing and explains itself on two lines. -/
def refusingSerde : Serde :=
  { parse := fun _ => none
    read := fun _ => none
    parseError := fun _ => "expected value\nat line 1"
    eventError := fun _ => ""
    utf8Error := fun _ => "" }

/-- An interruption, then a reply in three pieces and bytes after it. -/
def brokenReads : List Attempt :=
  [⟨0, .failed .interrupted 1⟩, ⟨10, .ready 3⟩, ⟨20, .ready 20⟩,
    ⟨30, .ready 4096⟩]

theorem shim_reads_every_reply_invalidJson :
    receive (Utf8.encode "400 invalid JSON: expected value at line 1\n503\n")
        brokenReads =
      some (.ok (.daemonError "invalid JSON: expected value at line 1")) := by
  have replied : handle refusingSerde none (Channel.empty IngestItem 1)
      ⟨Utf8.encode "x\n", false⟩ =
      (_, some (.badRequest "invalid JSON: expected value at line 1")) := rfl
  exact ((shim_reads_every_reply replied).2.2.1 (Utf8.encode "503\n")
    brokenReads (by decide)).1 (by decide)

end Bowerbird.Shim
