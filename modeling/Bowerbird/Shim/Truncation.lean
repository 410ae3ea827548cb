import Bowerbird.Ingest.Handler
import Bowerbird.Shim.Payload

namespace Bowerbird.Shim

open Protocol Foundation Ingest

/-! The shim may stop anywhere in its line.  The daemon then records the whole
event or none. -/

section Line

variable {serde : Serde} {toolReactions : Option (List (String × String))}

theorem lineBytes_open {bytes : List UInt8}
    (unframed : Utf8.newline ∉ bytes) : lineBytes bytes = bytes := by
  have every : ∀ byte ∈ bytes, (decide (byte ≠ Utf8.newline)) = true := by
    intro byte member
    simpa using fun same : byte = Utf8.newline => unframed (same ▸ member)
  rw [lineBytes, List.takeWhile_eq_self_iff.mpr every,
    List.dropWhile_eq_nil_iff.mpr every, List.take_nil, List.append_nil]

theorem lineBytes_framed {bytes : List UInt8} (rest : List UInt8)
    (unframed : Utf8.newline ∉ bytes) :
    lineBytes (bytes ++ Utf8.newline :: rest) = bytes ++ [Utf8.newline] := by
  have every : ∀ byte ∈ bytes, (decide (byte ≠ Utf8.newline)) = true := by
    intro byte member
    simpa using fun same : byte = Utf8.newline => unframed (same ▸ member)
  rw [lineBytes, List.takeWhile_append_of_pos every,
    List.dropWhile_append_of_pos every]
  simp

theorem trimEndNewlines_open {text : String} (unframed : '\n' ∉ text.toList) :
    trimEndNewlines text = text := by
  have last : text.toList.rdropWhile (· = '\n') = text.toList := by
    apply List.rdropWhile_eq_self_iff.mpr
    intro some' last
    have same := of_decide_eq_true last
    exact unframed (same ▸ List.getLast_mem some')
  rw [trimEndNewlines, last, String.ofList_toList]

theorem trimEndNewlines_framed {text : String} (unframed : '\n' ∉ text.toList) :
    trimEndNewlines (text ++ "\n") = text := by
  have trimmed := trimEndNewlines_open unframed
  unfold trimEndNewlines at trimmed ⊢
  have chars : (text ++ "\n").toList = text.toList ++ ['\n'] :=
    String.toList_append
  rw [chars, List.rdropWhile_concat_pos _ _ _ (by decide)]
  exact trimmed

theorem readLine_open {bytes : List UInt8} {broken : Bool} {buf : String}
    (unframed : Utf8.newline ∉ bytes)
    (read : readLine ⟨bytes, broken⟩ = .line buf) :
    bytes = Utf8.encode buf := by
  unfold readLine at read
  rw [lineBytes_open unframed] at read
  split at read
  · cases read
  · split at read
    · cases read
    · split at read
      · cases read
      · rename_i decoded
        cases read
        exact Utf8.decode_eq_some.mp decoded

/-- A line that is no JSON brings nothing. -/
theorem handle_unparsed {channel : Channel IngestItem} {received : Received}
    (unparsed : ∀ buf, readLine received = .line buf →
      serde.parse (trimEndNewlines buf) = none) :
    (handle serde toolReactions channel received).1 = channel := by
  cases handled : handle serde toolReactions channel received with
  | mk next reply =>
      rcases handle_cases handled with ⟨same, _⟩ | ⟨envelope, judged, _, _⟩
      · exact same
      · obtain ⟨buf, read, accepted⟩ := judge_ok judged
        obtain ⟨value, _, parsed, _⟩ := vet_ok accepted
        rw [unparsed buf read] at parsed
        cases parsed

/-- The newline that ends the line makes no difference. -/
theorem handle_framed {channel : Channel IngestItem} {text : String}
    (unframed : '\n' ∉ text.toList) (some' : text.toList ≠ []) :
    handle serde toolReactions channel ⟨Utf8.encode text, false⟩ =
      handle serde toolReactions channel
        ⟨Utf8.encode text ++ [Utf8.newline], false⟩ := by
  have bytes : Utf8.newline ∉ Utf8.encode text :=
    fun member => unframed (Utf8.newline_mem_encode.mp member)
  have whole : Utf8.encode text ++ [Utf8.newline] =
      Utf8.encode (text ++ "\n") := by
    rw [Utf8.encode_append]
    rfl
  have cut : readLine ⟨Utf8.encode text, false⟩ = .line text := by
    unfold readLine
    rw [lineBytes_open bytes]
    simp only [Bool.false_and, Bool.false_eq_true, if_false]
    split
    · rename_i empty
      have none' : text = "" := Utf8.encode_injective (empty.trans rfl)
      exact absurd (by rw [none']; rfl) some'
    · rw [Utf8.decode_encode]
  have complete : readLine ⟨Utf8.encode text ++ [Utf8.newline], false⟩ =
      .line (text ++ "\n") := by
    unfold readLine
    rw [lineBytes_framed [] bytes]
    simp only [Bool.false_and, Bool.false_eq_true, if_false]
    split
    · rename_i empty
      simp at empty
    · rw [whole, Utf8.decode_encode]
  have judged : judge serde toolReactions ⟨Utf8.encode text, false⟩ =
      judge serde toolReactions
        ⟨Utf8.encode text ++ [Utf8.newline], false⟩ := by
    unfold judge
    rw [cut, complete]
    simp only
    rw [trimEndNewlines_open unframed, trimEndNewlines_framed unframed]
  unfold handle
  rw [judged]

end Line

/-- The library reads nothing but JSON texts. -/
def Sound (serde : Serde) : Prop :=
  ∀ text value, serde.parse text = some value → Json.IsText text.toList

/-- A line cut short in its object brings nothing; cut short by its newline it is
the whole line.  So what a run of the shim leaves behind, wherever its writes
stop, is the complete event or none. -/
theorem truncated_write_records_nothing_else {serde : Serde}
    {toolReactions : Option (List (String × String))} (sound : Sound serde)
    {readJson : List UInt8 → Except String Json.Value} {args : List String}
    {ppid : Int} {stdin bytes : List UInt8}
    (sends : payload readJson args ppid stdin = .ok bytes) :
    ∃ object, bytes = object ++ [Utf8.newline] ∧
      (∀ cut, cut <+: object → cut ≠ object → ∀ broken channel,
        (handle serde toolReactions channel ⟨cut, broken⟩).1 = channel) ∧
      (∀ channel, handle serde toolReactions channel ⟨object, false⟩ =
        handle serde toolReactions channel ⟨bytes, false⟩) ∧
      ∀ writes reply reads channel,
        let sent := (run readJson args ppid stdin writes reply reads).1
        (handle serde toolReactions channel ⟨sent, false⟩).1 = channel ∨
          handle serde toolReactions channel ⟨sent, false⟩ =
            handle serde toolReactions channel ⟨bytes, false⟩ := by
  obtain ⟨fields, whole⟩ := payload_ok sends
  have unframed := newline_not_mem_objectBytes fields
  have nothing : ∀ cut, cut <+: objectBytes fields →
      cut ≠ objectBytes fields → ∀ broken channel,
      (handle serde toolReactions channel ⟨cut, broken⟩).1 = channel := by
    intro cut begins proper broken channel
    apply handle_unparsed
    intro buf read
    have bytes := readLine_open
      (fun member => unframed (begins.subset member)) read
    subst bytes
    have chars := Utf8.isPrefix_of_encode begins
    rw [String.toList_ofList] at chars
    have visible := Json.print_visible (.object fields)
    have open' : '\n' ∉ buf.toList := fun member =>
      absurd (visible '\n' (chars.subset member)) (by decide)
    rw [trimEndNewlines_open open']
    cases parsed : serde.parse buf with
    | none => rfl
    | some value =>
        refine absurd (sound buf value parsed)
          (Json.not_isText_of_cut chars ?_)
        intro same
        apply proper
        rw [objectBytes, ← same, String.ofList_toList]
  have framed : ∀ channel,
      handle serde toolReactions channel ⟨objectBytes fields, false⟩ =
        handle serde toolReactions channel ⟨bytes, false⟩ := by
    intro channel
    rw [whole]
    obtain ⟨rest, opens⟩ := Json.print_object fields
    apply handle_framed
    · intro member
      exact unframed (Utf8.newline_mem_encode.mpr member)
    · rw [String.toList_ofList, opens]
      exact List.cons_ne_nil _ _
  refine ⟨objectBytes fields, whole, nothing, framed, ?_⟩
  intro writes reply reads channel
  simp only
  have begins := run_sent sends writes reply reads
  generalize (run readJson args ppid stdin writes reply reads).1 = sent at begins ⊢
  rw [whole, List.prefix_concat_iff] at begins
  rcases begins with complete | cut
  · right
    rw [complete, whole]
  · by_cases all : sent = objectBytes fields
    · right
      rw [all]
      exact framed channel
    · left
      exact nothing sent cut all false channel

/-! A library that reads one document, and a run that sends it. -/

def stopFields : List (String × Json.Value) :=
  inject "Stop" 7 [("session_id", .string "s")]

def stopSerde : Serde :=
  { parse := fun text =>
      if text = String.ofList (Json.print (.object stopFields)) then
        some (.object stopFields)
      else none
    read := fun _ => none
    parseError := fun _ => "EOF while parsing an object"
    eventError := fun _ => ""
    utf8Error := fun _ => "" }

theorem stopSerde_sound : Sound stopSerde := by
  intro text value parsed
  simp only [stopSerde] at parsed
  split at parsed
  · rename_i same
    rw [same, String.toList_ofList]
    exact (Json.print_spells _).alone
  · cases parsed

theorem truncated_write_records_nothing_else_stop :
    (handle stopSerde none (Channel.empty IngestItem 1)
      ⟨(objectBytes stopFields).take 12, false⟩).1 =
        Channel.empty IngestItem 1 := by
  have sends : payload (fun _ => .ok (.object [("session_id", .string "s")]))
      ["--hook-kind", "Stop"] 7 [123, 125] =
      .ok (objectBytes stopFields ++ [Utf8.newline]) := rfl
  obtain ⟨object, whole, nothing, _⟩ :=
    truncated_write_records_nothing_else stopSerde_sound sends
  rw [← List.append_cancel_right whole] at nothing
  exact nothing _ (List.take_prefix _ _) (by decide) false _

end Bowerbird.Shim
