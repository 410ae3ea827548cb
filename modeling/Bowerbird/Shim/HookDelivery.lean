import Bowerbird.Shim.Main
import Bowerbird.Shim.ReplyAgreement

namespace Bowerbird.Shim

open Protocol Foundation Ingest

/-! A hook whose peer is the daemon's handler: what the ends of the hook tell of
the ingest channel. -/

/-- What the handler writes back; nothing when it could read no line. -/
def replyBytes : Option Reply → List UInt8
  | some reply => Utf8.encode reply.wire
  | none => []

/-! The first byte of a reply tells what it can come to. -/

section Opening

def opening : Response → UInt8
  | .ok => 50
  | .backpressure => 53
  | .daemonError _ => 52

theorem head_encode {text : String} {char : Char} {rest : List Char}
    {byte : UInt8} (begins : text.toList = char :: rest)
    (ascii : String.utf8EncodeChar char = [byte]) :
    (Utf8.encode text).head? = some byte := by
  rw [Utf8.encode, begins, List.flatMap_cons, ascii]
  rfl

theorem toList_stripPrefix {start text rest : String}
    (stripped : stripPrefix start text = some rest) :
    text.toList = start.toList ++ rest.toList := by
  obtain ⟨chars, found, rfl⟩ := Option.map_eq_some_iff.mp stripped
  rw [String.toList_ofList]
  exact (List.isPrefixOf?_eq_some_iff_append_eq.mp found).symm

theorem parseStatus_opening {trimmed : String} {response : Response}
    (parsed : parseStatus trimmed = .ok response) :
    ∃ char rest, trimmed.toList = char :: rest ∧
      String.utf8EncodeChar char = [opening response] := by
  unfold parseStatus at parsed
  split at parsed
  · cases parsed
  · split at parsed
    · rename_i same
      cases parsed
      exact ⟨'2', "00".toList, by rw [same]; rfl, by decide⟩
    · split at parsed
      · rename_i same
        cases parsed
        exact ⟨'5', "03".toList, by rw [same]; rfl, by decide⟩
      · split at parsed
        · rename_i reason stripped
          cases parsed
          exact ⟨'4', "00 ".toList ++ reason.toList,
            toList_stripPrefix stripped, rfl⟩
        · cases parsed

theorem parseReply_opening {raw : List UInt8} {response : Response}
    (parsed : parseReply raw = .ok response) :
    raw.head? = some (opening response) := by
  unfold parseReply at parsed
  simp only at parsed
  split at parsed
  · cases parsed
  · rename_i text decoded
    obtain ⟨char, rest, begins, ascii⟩ := parseStatus_opening parsed
    have front : trimEndReturns text = String.ofList
        (text.toList.rdropWhile (· = '\r')) := rfl
    obtain ⟨cut, whole⟩ := List.rdropWhile_prefix (· = '\r') text.toList
    rw [front, String.toList_ofList] at begins
    rw [begins, List.cons_append] at whole
    have head := head_encode whole.symm ascii
    rw [← Utf8.decode_eq_some.mp decoded] at head
    obtain ⟨after, line⟩ := List.takeWhile_prefix (l := raw)
      (fun byte => byte ≠ Utf8.newline)
    have same : replyLine raw ++ after = raw := line
    rw [← same, List.head?_append, head]
    rfl

theorem head_wire (reply : Reply) :
    (Utf8.encode reply.wire).head? = some (opening (response reply)) := by
  cases reply with
  | accepted => rfl
  | unavailable => rfl
  | badRequest reason =>
      have begins : (Reply.badRequest reason).wire.toList =
          '4' :: ("00 ".toList ++ reason.toList ++ ['\n']) := by
        simp [Reply.wire]
      exact head_encode begins rfl

theorem response_ok_of_opening {reply : Reply} {met : Response}
    (same : opening met = opening (response reply)) :
    reply = .accepted ↔ met = .ok := by
  cases reply <;> cases met <;> simp_all [opening, response]

/-- What the shim makes of a beginning of an answer tells which one it was. -/
theorem answered {answer : Option Reply} {raw : List UInt8} {met : Response}
    (front : raw <+: replyBytes answer) (parsed : parseReply raw = .ok met) :
    ∃ reply, answer = some reply ∧ (reply = .accepted ↔ met = .ok) := by
  have head := parseReply_opening parsed
  obtain ⟨after, whole⟩ := front
  have first : (replyBytes answer).head? = some (opening met) := by
    rw [← whole, List.head?_append, head]
    rfl
  cases answer with
  | none => cases first
  | some reply =>
      have same := (head_wire reply).symm.trans first
      exact ⟨reply, rfl, response_ok_of_opening (Option.some.inj same).symm⟩

end Opening

/-! What the handler makes of the beginning of a payload that it gets. -/

section Line

variable {serde : Serde} {toolReactions : Option (List (String × String))}
variable {fields : List (String × Json.Value)}

def objectText (fields : List (String × Json.Value)) : String :=
  String.ofList (Json.print (.object fields))

theorem objectText_unlined (fields : List (String × Json.Value)) :
    Unlined (objectText fields) := by
  intro member
  rw [objectText, String.toList_ofList] at member
  exact absurd (Json.print_visible _ _ member) (by decide)

theorem encode_objectText_ne_nil (fields : List (String × Json.Value)) :
    Utf8.encode (objectText fields) ≠ [] := by
  intro empty
  have none' : objectText fields = "" := Utf8.encode_injective (empty.trans rfl)
  obtain ⟨rest, opens⟩ := Json.print_object fields
  have chars := congrArg String.toList none'
  rw [objectText, String.toList_ofList, opens] at chars
  cases chars

theorem judge_complete (broken : Bool) :
    judge serde toolReactions
        ⟨Utf8.encode (objectText fields) ++ [Utf8.newline], broken⟩ =
      some (vet serde toolReactions (objectText fields)) := by
  have unlined := objectText_unlined fields
  have open' : Utf8.newline ∉ Utf8.encode (objectText fields) :=
    fun member => unlined (Utf8.newline_mem_encode.mp member)
  have whole : Utf8.encode (objectText fields) ++ [Utf8.newline] =
      Utf8.encode (objectText fields ++ "\n") := by
    rw [Utf8.encode_append]
    rfl
  have line : readLine
      ⟨Utf8.encode (objectText fields) ++ [Utf8.newline], broken⟩ =
      .line (objectText fields ++ "\n") := by
    unfold readLine
    rw [lineBytes_framed [] open']
    have framed : (Utf8.encode (objectText fields) ++ [Utf8.newline]).contains
        Utf8.newline = true := by
      simp
    simp only [framed, Bool.not_true, Bool.and_false, Bool.false_eq_true,
      if_false]
    split
    · rename_i empty
      simp at empty
    · rw [whole, Utf8.decode_encode]
  rw [judge, line]
  simp only
  rw [trimEndNewlines_framed unlined]

theorem judge_cut :
    judge serde toolReactions ⟨Utf8.encode (objectText fields), false⟩ =
      some (vet serde toolReactions (objectText fields)) := by
  have unlined := objectText_unlined fields
  have open' : Utf8.newline ∉ Utf8.encode (objectText fields) :=
    fun member => unlined (Utf8.newline_mem_encode.mp member)
  have line : readLine ⟨Utf8.encode (objectText fields), false⟩ =
      .line (objectText fields) := by
    unfold readLine
    rw [lineBytes_open open']
    simp only [Bool.false_and, Bool.false_eq_true, if_false]
    split
    · rename_i empty
      exact absurd empty (encode_objectText_ne_nil fields)
    · rw [Utf8.decode_encode]
  rw [judge, line]
  simp only
  rw [trimEndNewlines_open unlined]

/-- Part of a payload is the whole of its object or nothing. -/
theorem judge_sent (sound : Sound serde) {sent : List UInt8} (broken : Bool)
    (begins : sent <+: Utf8.encode (objectText fields) ++ [Utf8.newline]) :
    (∀ envelope, judge serde toolReactions ⟨sent, broken⟩ ≠
      some (.ok envelope)) ∨
    judge serde toolReactions ⟨sent, broken⟩ =
      some (vet serde toolReactions (objectText fields)) := by
  have unlined := objectText_unlined fields
  rw [List.prefix_concat_iff] at begins
  rcases begins with rfl | begins
  · exact .inr (judge_complete broken)
  · have open' : Utf8.newline ∉ sent := fun member =>
      unlined (Utf8.newline_mem_encode.mp (begins.subset member))
    by_cases whole : sent = Utf8.encode (objectText fields) ∧ broken = false
    · obtain ⟨rfl, rfl⟩ := whole
      exact .inr judge_cut
    · left
      intro envelope judged
      obtain ⟨buf, read, accepted⟩ := judge_ok judged
      cases broken with
      | true =>
          unfold readLine at read
          have missing : sent.contains Utf8.newline = false := by
            simpa using open'
          simp only [missing, Bool.not_false, Bool.and_self, if_true] at read
          cases read
      | false =>
          have bytes := readLine_open open' read
          subst bytes
          have chars := Utf8.isPrefix_of_encode begins
          rw [objectText, String.toList_ofList] at chars
          have bufUnlined : '\n' ∉ buf.toList := fun member =>
            absurd (Json.print_visible _ _ (chars.subset member)) (by decide)
          obtain ⟨value, _, parsed, _⟩ := vet_ok accepted
          rw [trimEndNewlines_open bufUnlined] at parsed
          refine Json.not_isText_of_cut chars ?_ (sound buf value parsed)
          intro same
          refine whole ⟨?_, rfl⟩
          rw [objectText, ← same, String.ofList_toList]

end Line

/-! What is on the channel when the line is a hook's. -/

/-- Strings and whole numbers come back from the print as they were. -/
structure SameScalars (left right : Json.Value) : Prop where
  strings : ∀ key text, left.get key = some (.string text) ↔
    right.get key = some (.string text)
  numbers : ∀ key value, left.get key = some (.number (.posInt value)) ↔
    right.get key = some (.number (.posInt value))

/-- The daemon's library reads what the shim's has read and printed again. -/
def Rereads (readJson : List UInt8 → Except String Json.Value)
    (serde : Serde) (call : Invocation) : Prop :=
  ∀ stdin fields hookKind, readJson stdin = .ok (.object fields) →
    parseHookKind call.args = .ok hookKind →
    ∃ again, serde.parse (objectText (inject hookKind call.ppid fields)) =
        some (.object again) ∧
      SameScalars (.object again) (.object (inject hookKind call.ppid fields))

/-- The event that a hook stands for: its kind is the one that the arguments
name, whatever the payload calls itself, and its pid is the shim's parent. -/
structure Hooked (readJson : List UInt8 → Except String Json.Value)
    (call : Invocation) (stdin : List UInt8) (envelope : EventEnvelope) : Prop where
  kind : ∃ hookKind, parseHookKind call.args = .ok hookKind ∧
    Adapter.hookEventKind hookKind = .ok envelope.kind
  source : envelope.source = Adapter.source
  session : ∃ fields, readJson stdin = .ok (.object fields) ∧
    (Json.Value.object fields).get "session_id" =
      some (.string envelope.sessionId)
  pid : envelope.pid =
    if 0 < call.ppid then some call.ppid.toNat else none
  payload : payload readJson call.args call.ppid stdin =
    .ok (Utf8.encode envelope.payload ++ [Utf8.newline])

section Hooked

variable {readJson : List UInt8 → Except String Json.Value} {serde : Serde}
variable {toolReactions : Option (List (String × String))}
variable {call : Invocation} {stdin wire : List UInt8}

theorem fromUTF8_toUTF8 (text : String) :
    String.fromUTF8? text.toUTF8 = some text := by
  have bytes := Utf8.decode_encode text
  rw [Utf8.decode, Utf8.toByteArray_encode] at bytes
  exact bytes

theorem payload_cases {args : List String} {ppid : Int}
    (sends : payload readJson args ppid stdin = .ok wire) :
    ∃ hookKind fields, parseHookKind args = .ok hookKind ∧
      readJson stdin = .ok (.object fields) ∧
      wire = Utf8.encode (objectText (inject hookKind ppid fields)) ++
        [Utf8.newline] := by
  unfold payload at sends
  cases named : parseHookKind args with
  | error error => simp [named, bind, Except.bind] at sends
  | ok hookKind =>
      simp only [named, bind, Except.bind] at sends
      split at sends
      · cases sends
      · split at sends
        · cases sends
        · split at sends
          · cases sends
          · rename_i fields read
            exact ⟨hookKind, fields, rfl, read, (Except.ok.inj sends).symm⟩
          · cases sends

theorem get_inject (key hookKind : String) (ppid : Int)
    (fields : List (String × Json.Value)) :
    (Json.Value.object (inject hookKind ppid fields)).get key =
      if "bowerbird_ppid" = key then some (.number (signedNumber ppid))
      else if "hook_kind" = key then some (.string hookKind)
      else (Json.Value.object fields).get key := by
  have outer := Adapter.Settings.field_insertField "bowerbird_ppid"
    (.number (signedNumber ppid))
    (Json.insertField "hook_kind" (.string hookKind) fields) key
  have inner := Adapter.Settings.field_insertField "hook_kind"
    (.string hookKind) fields key
  rw [inner] at outer
  exact outer

theorem hookPid_inject {value : Json.Value} {hookKind : String}
    {fields : List (String × Json.Value)}
    (same : SameScalars value (.object (inject hookKind call.ppid fields))) :
    Adapter.hookPid value =
      if 0 < call.ppid then some call.ppid.toNat else none := by
  obtain ⟨least, most⟩ := call.isPid
  have sent := get_inject "bowerbird_ppid" hookKind call.ppid fields
  rw [if_pos rfl] at sent
  unfold Adapter.hookPid
  by_cases positive : 0 ≤ call.ppid
  · rw [signedNumber, if_pos positive] at sent
    rw [(same.numbers _ _).mpr sent]
    have small : call.ppid.toNat < 2 ^ 64 := by omega
    have smaller : call.ppid.toNat < 2 ^ 32 := by omega
    rw [Option.bind_some, Json.Value.asU64, if_pos small,
      Option.filter_some, if_pos (decide_eq_true smaller), Option.filter_some]
    by_cases zero : call.ppid.toNat = 0
    · rw [if_neg (by simp [zero]), if_neg (by omega)]
    · rw [if_pos (by simpa using zero), if_pos (by omega)]
  · rw [if_neg (by omega)]
    cases found : value.get "bowerbird_ppid" with
    | none => rfl
    | some number =>
        have none' : Json.Value.asU64 number = none := by
          unfold Json.Value.asU64
          split
          · rename_i whole
            have back := (same.numbers _ _).mp found
            rw [sent, signedNumber, if_neg positive] at back
            cases back
          · rfl
        rw [Option.bind_some, none']
        rfl

theorem hooked_of_vet {hookKind : String} {fields : List (String × Json.Value)}
    {envelope : EventEnvelope} (rereads : Rereads readJson serde call)
    (named : parseHookKind call.args = .ok hookKind)
    (read : readJson stdin = .ok (.object fields))
    (sends : payload readJson call.args call.ppid stdin =
      .ok (Utf8.encode (objectText (inject hookKind call.ppid fields)) ++
        [Utf8.newline]))
    (accepted : vet serde toolReactions
      (objectText (inject hookKind call.ppid fields)) = .ok envelope) :
    Hooked readJson call stdin envelope := by
  obtain ⟨again, reread, same⟩ := rereads stdin fields hookKind read named
  obtain ⟨value, kindText, parsed, _, kindField, normalized, _, _⟩ :=
    vet_ok accepted
  obtain ⟨text, value', decoded, parsed', kind, session, _, source, payload',
    pid, _⟩ := Adapter.normalize_cases serde.parse normalized
  rw [reread] at parsed
  cases parsed
  have whole : text = objectText (inject hookKind call.ppid fields) :=
    Option.some.inj (decoded.symm.trans (fromUTF8_toUTF8 _))
  subst whole
  rw [reread] at parsed'
  cases parsed'
  have ownKind : kindText = hookKind := by
    have sent := get_inject "hook_kind" hookKind call.ppid fields
    rw [if_neg (by decide), if_pos rfl] at sent
    rw [(same.strings _ _).mpr sent] at kindField
    exact (Option.some.inj kindField).symm
  subst ownKind
  have ownSession : (Json.Value.object fields).get "session_id" =
      some (.string envelope.sessionId) := by
    unfold Adapter.requiredStr at session
    split at session
    · rename_i id found
      cases session
      obtain ⟨field, present, text⟩ := Option.bind_eq_some_iff.mp found
      cases field with
      | string own =>
          cases text
          have sent := (same.strings _ _).mp present
          rw [get_inject, if_neg (by decide), if_neg (by decide)] at sent
          exact sent
      | null | bool | number | array | object => cases text
    · cases session
  constructor
  · exact ⟨kindText, named, kind⟩
  · exact source
  · exact ⟨fields, read, ownSession⟩
  · rw [pid]
    exact hookPid_inject same
  · rw [payload']
    exact sends

/-- What a hook has sent brings its own event or nothing. -/
theorem judge_hooked {sent : List UInt8} {broken : Bool}
    {envelope : EventEnvelope} (sound : Sound serde)
    (rereads : Rereads readJson serde call)
    (sends : payload readJson call.args call.ppid stdin = .ok wire)
    (begins : sent <+: wire)
    (judged : judge serde toolReactions ⟨sent, broken⟩ =
      some (.ok envelope)) : Hooked readJson call stdin envelope := by
  obtain ⟨hookKind, fields, named, read, rfl⟩ := payload_cases sends
  rcases judge_sent sound broken begins with never | whole
  · exact absurd judged (never envelope)
  · rw [whole] at judged
    exact hooked_of_vet rereads named read sends (Option.some.inj judged)

/-- A line of the log that quotes a refusal. -/
def QuotesRefusal (message : String) : Prop :=
  (∃ reason, message = "daemon returned 400: " ++ reason) ∨
    message = "daemon returned 503 (backpressure)"

/-- What the ends of a hook tell of the channel of the daemon that it met. -/
structure TellsQueue (readJson : List UInt8 → Except String Json.Value)
    (call : Invocation) (meets : Meets) (channel next : Channel IngestItem)
    (end' : Ending) : Prop where
  /-- The hook's own event, once, or nothing. -/
  atMostOnce : next = channel ∨ ∃ envelope,
    Hooked readJson call meets.stdin envelope ∧
      channel.trySend { envelope, origin := .live } = .ok next
  unsent : end'.exitCode = 1 → next = channel
  silence : meets.logged = true → end'.exitCode = 0 → end'.log = none →
    ∃ envelope, Hooked readJson call meets.stdin envelope ∧
      channel.trySend { envelope, origin := .live } = .ok next
  refused : ∀ line, end'.log = some line →
    QuotesRefusal line.message → next = channel

theorem handle_nothing (channel : Channel IngestItem) (broken : Bool) :
    handle serde toolReactions channel ⟨[], broken⟩ = (channel, none) := by
  have nothing : judge serde toolReactions ⟨[], broken⟩ = none := by
    cases broken <;> rfl
  rw [handle, nothing]

theorem head_append (start : String) {char : Char}
    (begins : start.toList.head? = some char) (rest : String) :
    (start ++ rest).toList.head? = some char := by
  rw [String.toList_append, List.head?_append, begins]
  rfl

theorem head_of_quotesRefusal {message : String}
    (quotes : QuotesRefusal message) : message.toList.head? = some 'd' := by
  rcases quotes with ⟨reason, rfl⟩ | rfl
  · exact head_append _ rfl reason
  · rfl

theorem broken_message {error : Error} (broken : error.Broken)
    (ioText : ErrorKind → String) :
    ¬ QuotesRefusal ((Failure.exchange error).message ioText) := by
  intro quotes
  have head := head_of_quotesRefusal quotes
  cases error with
  | socketIo kind =>
      have own := head_append "socket I/O failed: " rfl (ioText kind)
      exact absurd (own.symm.trans head) (by decide)
  | timeout op budgetMs elapsedMs =>
      have own := head_append _ (head_append _ (head_append "socket " rfl op.name)
        s!" timed out after {elapsedMs}ms (budget {budgetMs}ms); ")
        op.consequence
      exact absurd (own.symm.trans head) (by decide)
  | badResponse text =>
      have own := head_append "unexpected daemon response: " rfl text
      exact absurd (own.symm.trans head) (by decide)
  | backpressure503 | daemonError400 | badArgs | stdinTooLarge | stdinEmpty
  | stdinJson | stdinNotJsonObject => cases broken

/-- What a hook sends to the daemon that it met, and what its ends tell of it:
its own event is queued at most once; exit code 1 means that nothing was, silence
that it was, and a refusal in the log that it was not. -/
theorem hook_ending_tells_the_queue
    {readJson : List UInt8 → Except String Json.Value} {serde : Serde}
    {toolReactions : Option (List (String × String))}
    {ioText : ErrorKind → String} {call : Invocation} {meets : Meets}
    {channel next : Channel IngestItem} {sent : List UInt8} {broken : Bool}
    {answer : Option Reply} {end' : Ending}
    (sound : Sound serde) (rereads : Rereads readJson serde call)
    (ended : main readJson ioText call meets = (sent, some end'))
    (handled : handle serde toolReactions channel ⟨sent, broken⟩ =
      (next, answer))
    (replied : meets.reply = replyBytes answer) :
    TellsQueue readJson call meets channel next end' := by
  have untouched : sent = [] → next = channel := by
    rintro rfl
    rw [handle_nothing] at handled
    exact (Prod.mk.inj handled).1.symm
  rcases main_cases ended with
    ⟨nothing, failure, logged, code, rfl⟩ | ⟨wire, result, sends, begins, rfl, how⟩
  · have same := untouched nothing
    constructor
    · exact .inl same
    · exact fun _ => same
    · intro _ zero
      exact absurd (code.symm.trans zero) (by decide)
    · exact fun _ _ _ => same
  · have queued : answer = some .accepted → ∃ envelope,
        Hooked readJson call meets.stdin envelope ∧
          channel.trySend { envelope, origin := .live } = .ok next := by
      intro accepted
      rcases handle_cases handled with ⟨_, other⟩ | ⟨envelope, judged, queued, _⟩
      · exact absurd accepted other
      · exact ⟨envelope, judge_hooked sound rereads sends begins judged, queued⟩
    have refused : answer ≠ some .accepted → next = channel := by
      intro other
      rcases handle_cases handled with ⟨same, _⟩ | ⟨_, _, _, accepted⟩
      · exact same
      · exact absurd accepted other
    have atMostOnce : next = channel ∨ ∃ envelope,
        Hooked readJson call meets.stdin envelope ∧
          channel.trySend { envelope, origin := .live } = .ok next := by
      by_cases accepted : answer = some .accepted
      · exact .inr (queued accepted)
      · exact .inl (refused accepted)
    rcases how with ⟨error, rfl, broken⟩ | ⟨met, raw, rfl, _, front, parsed⟩
    · obtain ⟨code, _⟩ := broken.late.silent
      constructor
      · exact atMostOnce
      · intro one
        exact absurd (code.symm.trans one) (by decide)
      · intro logged _ silent
        simp [ending, logged] at silent
      · intro line written quotes
        simp only [ending, Option.ite_none_right_eq_some,
          Option.some.injEq] at written
        obtain ⟨_, rfl⟩ := written
        exact absurd quotes (broken_message broken ioText)
    · rw [replied] at front
      obtain ⟨reply, answers, agree⟩ := answered front parsed
      have told := parseReply_told raw
      rw [parsed] at told
      rcases finished_cases told with ⟨ok, done⟩ | ⟨error, done, late, other⟩
      · rw [done]
        constructor
        · exact atMostOnce
        · intro one
          cases one
        · intro _ _ _
          rw [agree.mpr ok] at answers
          exact queued answers
        · intro line written
          cases written
      · obtain ⟨code, _⟩ := late.silent
        rw [done]
        have same : next = channel := by
          apply refused
          rw [answers]
          intro accepted
          exact other (agree.mp (Option.some.inj accepted))
        constructor
        · exact atMostOnce
        · exact fun _ => same
        · intro logged _ silent
          simp [ending, logged] at silent
        · exact fun _ _ _ => same

end Hooked

/-! A hook that ends without a word. -/

def stopCall : Invocation :=
  { env := { shimLog := none, ingestSock := none, home := some "/home" }
    args := ["--hook-kind", "Stop"]
    ppid := 7
    isPid := by decide }

def stopMeets : Meets :=
  { stdin := [123, 125]
    stdinBroken := none
    connect := none
    setTimeouts := none
    writes := [⟨0, .ready 8192⟩]
    reply := replyBytes (some .accepted)
    reads := [⟨0, .ready 4096⟩]
    logged := true }

def stopEnvelope : EventEnvelope :=
  { source := Adapter.source
    sessionId := "s"
    kind := .stop
    reaction := none
    payload := objectText stopFields
    pid := some 7
    notificationType := none
    cwd := none }

theorem stop_vetted : vet stopSerde none (objectText stopFields) =
    .ok stopEnvelope := by
  have parsed : stopSerde.parse (objectText stopFields) =
      some (.object stopFields) := by
    simp only [stopSerde]
    exact if_pos rfl
  have decoded := fromUTF8_toUTF8 (objectText stopFields)
  unfold vet Adapter.normalize
  simp only [parsed, decoded]
  rfl

theorem stop_handled : handle stopSerde none (Channel.empty IngestItem 1)
    ⟨objectBytes stopFields ++ [Utf8.newline], false⟩ =
      (⟨1, [{ envelope := stopEnvelope, origin := .live }], false, Nat.le_refl 1⟩,
        some .accepted) := by
  have judged : judge stopSerde none
      ⟨Utf8.encode (objectText stopFields) ++ [Utf8.newline], false⟩ =
        some (vet stopSerde none (objectText stopFields)) :=
    judge_complete false
  rw [stop_vetted] at judged
  have same : Utf8.encode (objectText stopFields) = objectBytes stopFields := rfl
  rw [same] at judged
  rw [handle, judged]
  rfl

theorem stop_rereads :
    Rereads (fun _ => .ok (.object [("session_id", .string "s")])) stopSerde
      stopCall := by
  intro stdin fields hookKind read named
  cases read
  have kind : hookKind = "Stop" := (Except.ok.inj named).symm
  subst kind
  refine ⟨stopFields, ?_, fun _ _ => Iff.rfl, fun _ _ => Iff.rfl⟩
  simp only [stopSerde]
  exact if_pos rfl

theorem hook_ending_tells_the_queue_stop :
    TellsQueue (fun _ => .ok (.object [("session_id", .string "s")])) stopCall
      stopMeets (Channel.empty IngestItem 1)
      ⟨1, [{ envelope := stopEnvelope, origin := .live }], false, Nat.le_refl 1⟩
      { exitCode := 0, stderr := none, log := none } := by
  have ended : main (fun _ => .ok (.object [("session_id", .string "s")]))
      (fun _ => "") stopCall stopMeets =
        (objectBytes stopFields ++ [Utf8.newline],
          some { exitCode := 0, stderr := none, log := none }) := by
    rfl
  exact hook_ending_tells_the_queue stopSerde_sound stop_rereads ended
    stop_handled rfl

end Bowerbird.Shim
