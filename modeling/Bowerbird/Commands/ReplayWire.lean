import Bowerbird.Api.ReplayAccounting
import Bowerbird.Commands.ExportWire

namespace Bowerbird.Commands.ReplayWire

open Protocol Foundation Foundation.Http Ingest Api Api.Router Commands.Http
open Export (Passage ReadsTexts errorAnswer text)

/-! A replay over HTTP.  The request and the answer may each be cut off anywhere,
and the channel may answer what the daemon sends in any way. -/

def errorJson (error : Replay.ParseError) : Json.Value :=
  .object [("line", EventJson.ofNat error.line), ("error", .string error.error)]

def responseJson (response : Replay.ReplayResponse) : Json.Value :=
  .object [("replayed_count", EventJson.ofNat response.replayedCount),
    ("parse_errors", .array (response.parseErrors.map errorJson))]

def asUsize : Json.Value → Option Nat
  | .number (.posInt value) => if value < 2 ^ 64 then some value else none
  | _ => none

def errorOfJson : Json.Value → Option Replay.ParseError
  | .object fields => do
      let line ← EventJson.required asUsize fields "line"
      let error ← EventJson.required Json.Value.asStr fields "error"
      return { line, error }
  | .array [line, error] => do
      let line ← asUsize line
      let error ← error.asStr
      return { line, error }
  | _ => none

def asErrors : Json.Value → Option (List Replay.ParseError)
  | .array values => values.mapM errorOfJson
  | _ => none

/-- The errors may be left out, but not null. -/
def errorsOrNone (fields : List (String × Json.Value)) :
    Option (List Replay.ParseError) :=
  match EventJson.once fields "parse_errors" with
  | none => none
  | some none => some []
  | some (some value) => asErrors value

/-- `DaemonReplayResponse`. -/
def responseOfJson : Json.Value → Option Replay.ReplayResponse
  | .object fields => do
      let replayedCount ← EventJson.required asUsize fields "replayed_count"
      let parseErrors ← errorsOrNone fields
      return { replayedCount, parseErrors }
  | .array [replayedCount] => do
      let replayedCount ← asUsize replayedCount
      return { replayedCount, parseErrors := [] }
  | .array [replayedCount, parseErrors] => do
      let replayedCount ← asUsize replayedCount
      let parseErrors ← asErrors parseErrors
      return { replayedCount, parseErrors }
  | _ => none

section Daemon

variable (serde : Serde) (token rejection : String) (others : Request → Export.Answer)
variable (answers : Nat → Replay.Answer)

def bodyLimitBytes : Nat :=
  1048576

/-- The handler, behind the body limit and the bearer gate; `rejection` is what is
wrong with a body that does not come whole. -/
def replayAnswer (request : Request) (length : Nat) (come : List UInt8) :
    Option Replay.Replayed × Export.Answer :=
  if bodyLimitBytes < length then
    (none, { code := 413, body := Utf8.encode "length limit exceeded" })
  else if requireBearer token request then
    if come.length < length then
      (none, { code := 400, body := Utf8.encode rejection })
    else
      let replayed := Replay.replay serde answers (come.take length)
      (some replayed,
        { code := 200, body := Utf8.encode (text (responseJson replayed.response)) })
  else (none, errorAnswer 401 "unauthorized")

/-- What the daemon replays, and its answer. -/
def daemonReplay (bytes : List UInt8) : Option Replay.Replayed × Export.Answer :=
  match readHead bytes with
  | none => (none, { code := 400, body := [] })
  | some (request, length, come) =>
      match endpoint (pathOf request.target) with
      | some .replay =>
          if request.method = Utf8.encode "POST" then
            replayAnswer serde token rejection answers request length come
          else (none, others request)
      | some _ => (none, others request)
      | none => (none, { code := 404, body := [] })

end Daemon

structure Printed where
  stdout : String
  stderr : List String
  deriving Repr, DecidableEq

def printed (label : String) (response : Replay.ReplayResponse) : Printed where
  stdout :=
    "replayed " ++ toString response.replayedCount ++ " events from " ++ label
  stderr := response.parseErrors.map fun error =>
    "  line " ++ toString error.line ++ ": " ++ error.error

/-- What the command makes of an answer. -/
def reported (serde : Serde) (addr label : String) :
    StatusResponse → Except String Printed
  | .ok body =>
      match ((Utf8.decode body).bind serde.read).bind responseOfJson with
      | some response => .ok (printed label response)
      | none => .error "parse /replay response body"
  | .status 401 =>
      .error ("daemon rejected bearer token; check ~/.bowerbird/config.toml or " ++
        "BOWERBIRD_TOKEN")
  | .status code => .error ("daemon returned HTTP " ++ toString code)
  | .unreachable =>
      .error ("cannot reach daemon at " ++ addr ++
        "; is it running? (try 'bowerbird start')")

/-- What becomes of one replay on its way. -/
structure Attempt where
  arrival : Passage
  answers : Nat → Replay.Answer
  back : Passage

structure Outcome where
  replayed : Option Replay.Replayed
  result : Except String Printed

section Attempt

variable (serde : Serde) (token addr bearer label : String)
variable (fields : List (List UInt8)) (rejection : String)
variable (others : Request → Export.Answer)

/-- `run`, with the bytes of the file. -/
def Attempt.run (attempt : Attempt) (body : List UInt8) : Outcome :=
  let handle (bytes : List UInt8) :=
    (attempt.arrival.carry bytes).map
      (daemonReplay serde token rejection others attempt.answers)
  let reply (bytes : List UInt8) :=
    (handle bytes).bind fun handled => attempt.back.carry (handled.2.bytes fields)
  { replayed := (handle (replayRequest addr bearer body)).bind (·.1)
    result := reported serde addr label (httpPostReplay reply addr bearer body) }

end Attempt

/-! A response is read as it was sent. -/

theorem asUsize_ofNat {value : Nat} (small : value < 2 ^ 64) :
    asUsize (EventJson.ofNat value) = some value :=
  if_pos small

/-- The numbers fit in a machine word. -/
structure Sized (response : Replay.ReplayResponse) : Prop where
  count : response.replayedCount < 2 ^ 64
  lines : ∀ error ∈ response.parseErrors, error.line < 2 ^ 64

theorem errorOfJson_errorJson {error : Replay.ParseError}
    (small : error.line < 2 ^ 64) : errorOfJson (errorJson error) = some error := by
  simp [errorOfJson, errorJson, EventJson.required, EventJson.once, List.filter,
    asUsize_ofNat small, Json.Value.asStr]

theorem mapM_errorJson {errors : List Replay.ParseError}
    (small : ∀ error ∈ errors, error.line < 2 ^ 64) :
    (errors.map errorJson).mapM errorOfJson = some errors := by
  induction errors with
  | nil => rfl
  | cons error rest induction =>
      have first := errorOfJson_errorJson (small error List.mem_cons_self)
      have others := induction fun other member =>
        small other (List.mem_cons_of_mem error member)
      rw [List.map_cons, List.mapM_cons, first, others]
      rfl

theorem responseOfJson_responseJson {response : Replay.ReplayResponse}
    (sized : Sized response) :
    responseOfJson (responseJson response) = some response := by
  simp [responseOfJson, responseJson, EventJson.required, errorsOrNone,
    EventJson.once, List.filter, asErrors, asUsize_ofNat sized.count,
    mapM_errorJson sized.lines]

theorem length_splitOn (separator : UInt8) (bytes : List UInt8) :
    (bytes.splitOn separator).length ≤ bytes.length + 1 := by
  induction bytes with
  | nil => exact Nat.le_refl _
  | cons byte rest induction =>
      rw [List.splitOn_cons_eq_if_modifyHead]
      split
      · rw [List.length_cons, List.length_cons]
        omega
      · rw [List.length_modifyHead, List.length_cons]
        omega

/-- A body within the limit has not so many lines. -/
theorem replay_sized (serde : Serde) (answers : Nat → Replay.Answer)
    {body : List UInt8} (short : body.length ≤ bodyLimitBytes) :
    Sized (Replay.replay serde answers body).response := by
  have many : (Replay.lines body).length < 2 ^ 64 - 1 := by
    have lines := length_splitOn Utf8.newline body
    rw [← Replay.lines] at lines
    unfold bodyLimitBytes at short
    omega
  have numbers : (Replay.verdicts serde 1 answers (Replay.lines body)).map Prod.fst =
      (Replay.numbered 1 (Replay.lines body)).map Prod.snd :=
    Replay.verdicts_numbered 1 answers (Replay.lines body)
  have below : ∀ number ∈ (Replay.verdicts serde 1 answers
      (Replay.lines body)).map Prod.fst, number < 2 ^ 64 := by
    intro number member
    rw [numbers] at member
    obtain ⟨⟨line, index⟩, listed, rfl⟩ := List.mem_map.mp member
    have inside := List.snd_lt_of_mem_zipIdx (List.mem_filter.mp listed).1
    dsimp only at inside ⊢
    omega
  rw [Replay.replay, Replay.runAnswered_eq]
  constructor
  · have size := congrArg List.length numbers
    rw [List.length_map, List.length_map] at size
    have kept : (Replay.numbered 1 (Replay.lines body)).length ≤
        (Replay.lines body).length := by
      rw [Replay.length_numbered]
      exact List.length_filter_le _ _
    have taken := List.length_filterMap_le Replay.enqueued?
      (Replay.verdicts serde 1 answers (Replay.lines body))
    dsimp only [Replay.Replayed.empty, Replay.ReplayResponse.empty]
    omega
  · intro error member
    obtain ⟨⟨number, verdict⟩, listed, same⟩ := List.mem_filterMap.mp member
    cases verdict with
    | ok item => cases same
    | error text =>
        cases same
        exact below number (List.mem_map_of_mem listed)

/-! What comes of a request, as far as it has come. -/

/-- What a replay over HTTP counts on. -/
structure Posts (addr bearer : String) (fields : List (List UInt8)) : Prop where
  host : Http.Unbroken addr
  line : Http.Unbroken bearer
  plain : ∀ line ∈ fields, Plain line

section Handled

variable {serde : Serde} {token addr bearer label : String}
variable {fields : List (List UInt8)} {rejection : String}
variable {others : Request → Export.Answer} {answers : Nat → Replay.Answer}
variable {body : List UInt8}

/-- The answer of a daemon that has replayed the body. -/
def done (replayed : Replay.Replayed) : Export.Answer :=
  { code := 200, body := Utf8.encode (text (responseJson replayed.response)) }

/-- Nothing is replayed, and the answer is no success. -/
def Refused (handled : Option Replay.Replayed × Export.Answer) : Prop :=
  handled.1 = none ∧ handled.2.code < 2 ^ 16 ∧ handled.2.code ≠ 200

theorem refused {answer : Export.Answer} (small : answer.code < 2 ^ 16)
    (failure : answer.code ≠ 200) : Refused (none, answer) :=
  ⟨rfl, small, failure⟩

theorem replayAnswer_cases {request : Request} {length : Nat} (come : List UInt8) :
    (requireBearer token request = true ∧ length ≤ bodyLimitBytes ∧
        length ≤ come.length ∧
        replayAnswer serde token rejection answers request length come =
          (some (Replay.replay serde answers (come.take length)),
            done (Replay.replay serde answers (come.take length)))) ∨
      (requireBearer token request = false ∨ bodyLimitBytes < length ∨
          come.length < length) ∧
        Refused (replayAnswer serde token rejection answers request length come) := by
  unfold replayAnswer
  by_cases large : bodyLimitBytes < length
  · rw [if_pos large]
    exact .inr ⟨.inr (.inl large),
      refused (by decide : 413 < 2 ^ 16) (by decide : 413 ≠ 200)⟩
  · rw [if_neg large]
    cases bearer : requireBearer token request with
    | false =>
        rw [if_neg Bool.false_ne_true]
        exact .inr ⟨.inl rfl,
          refused (by decide : 401 < 2 ^ 16) (by decide : 401 ≠ 200)⟩
    | true =>
        rw [if_pos rfl]
        by_cases short : come.length < length
        · rw [if_pos short]
          exact .inr ⟨.inr (.inr short),
            refused (by decide : 400 < 2 ^ 16) (by decide : 400 ≠ 200)⟩
        · rw [if_neg short]
          exact .inl ⟨rfl, by omega, by omega, rfl⟩

def posted (addr bearer : String) (body : List UInt8) : Request where
  method := Utf8.encode "POST"
  target := Utf8.encode "/replay"
  fields := received (headed addr bearer (replayMore body))
  body := []

/-- A body is replayed when all of it has come, it is within the limit and the
bearer is the daemon's token; else nothing is. -/
theorem daemonReplay_take (host : Http.Unbroken addr) (line : Http.Unbroken bearer)
    (count : Nat) :
    let request := replayRequest addr bearer body
    let handled := daemonReplay serde token rejection others answers
      (request.take count)
    (Admits token bearer ∧ body.length ≤ bodyLimitBytes ∧
        handled = (some (Replay.replay serde answers body),
          done (Replay.replay serde answers body))) ∨
      (¬ Admits token bearer ∨ bodyLimitBytes < body.length ∨
          count < request.length) ∧ Refused handled := by
  intro request handled
  have head := replayRequest_head host line body []
  rw [List.append_nil, List.append_nil] at head
  rcases readHead_take head count with nothing | ⟨come, begun, rest⟩
  · refine .inr ⟨.inr (.inr ?_), ?_⟩
    · by_contra whole
      rw [List.take_of_length_le (Nat.not_lt.mp whole), head] at nothing
      cases nothing
    · have answered : handled = (none, { code := 400, body := [] }) := by
        simp only [handled, daemonReplay, request, nothing]
      rw [answered]
      exact refused (by decide : 400 < 2 ^ 16) (by decide : 400 ≠ 200)
  · have admits : requireBearer token (posted addr bearer body) = true ↔
        Admits token bearer :=
      requireBearer_iff (lookup_authorization addr bearer (replayMore body))
    have answered : handled = replayAnswer serde token rejection answers
        (posted addr bearer body) body.length come := by
      simp only [handled, daemonReplay, request, begun]
      rfl
    rw [answered]
    rcases replayAnswer_cases come with ⟨passes, short, whole, same⟩ | ⟨why, refused⟩
    · left
      refine ⟨admits.mp passes, short, ?_⟩
      have all : come.take body.length = body := by
        have size := congrArg List.length rest
        rw [List.length_append] at size
        have nothing : (replayRequest addr bearer body).drop count = [] :=
          List.eq_nil_of_length_eq_zero (by omega)
        rw [nothing, List.append_nil] at rest
        rw [rest, List.take_length]
      rw [same, all]
    · refine .inr ⟨?_, refused⟩
      rcases why with fails | large | short
      · left
        intro passes
        rw [admits.mpr passes] at fails
        cases fails
      · exact .inr (.inl large)
      · right
        right
        by_contra whole
        have nothing : (replayRequest addr bearer body).drop count = [] :=
          List.drop_eq_nil_of_le (Nat.not_lt.mp whole)
        rw [nothing, List.append_nil] at rest
        rw [rest] at short
        exact Nat.lt_irrefl _ short

/-! What the command makes of it. -/

/-- The library reads the response as it was printed. -/
def ReadsBack (serde : Serde) (response : Replay.ReplayResponse) : Prop :=
  serde.read (text (responseJson response)) = some (responseJson response)

theorem readResponse_status {response : List UInt8} {code : Nat}
    (status : statusOf response = code) (failure : code ≠ 200) :
    ∃ error, reported serde addr label (readResponse response) = .error error := by
  unfold readResponse
  rw [status, if_neg failure]
  split
  · exact ⟨_, rfl⟩
  · unfold reported
    split <;> first | contradiction | exact ⟨_, rfl⟩

/-- No success is made of an answer that is none, wherever it is cut off. -/
theorem refused_reported {handled : Option Replay.Replayed × Export.Answer}
    (refused : Refused handled) (plain : ∀ line ∈ fields, Plain line)
    (back : Passage) {response : List UInt8}
    (come : back.carry (handled.2.bytes fields) = some response) :
    ∃ error, reported serde addr label (readResponse response) = .error error := by
  obtain ⟨_, small, failure⟩ := refused
  cases back with
  | lost => cases come
  | whole =>
      obtain rfl := Option.some.inj come
      exact readResponse_status (Export.Answer.read_whole small plain).1 failure
  | cut count =>
      obtain rfl := Option.some.inj come
      rcases Export.Answer.read_take small plain count with nothing | ⟨code, _⟩
      · exact readResponse_status nothing (by decide)
      · exact readResponse_status code failure

theorem readResponse_ok {response : List UInt8} (status : statusOf response = 200) :
    readResponse response = .ok (bodyAfterHeaders response) := by
  rw [readResponse, status]
  rfl

theorem done_body (replayed : Replay.Replayed) :
    (done replayed).body = Utf8.encode (text (responseJson replayed.response)) := by
  simp only [done]

theorem response_cut (texts : ReadsTexts serde) {replayed : Replay.Replayed}
    {kept : List UInt8} (begins : kept <+: (done replayed).body)
    (proper : kept ≠ (done replayed).body) :
    (Utf8.decode kept).bind serde.read = none := by
  rw [done_body, responseJson] at begins proper
  exact Export.read_cut texts _ begins proper

/-- The report is what the daemon has replayed; an answer that is cut off is an
error, or all of it has come. -/
theorem done_reported {replayed : Replay.Replayed} (texts : ReadsTexts serde)
    (reads : ReadsBack serde replayed.response) (sized : Sized replayed.response)
    (plain : ∀ line ∈ fields, Plain line) (back : Passage) {response : List UInt8}
    (come : back.carry ((done replayed).bytes fields) = some response) :
    reported serde addr label (readResponse response) =
        .ok (printed label replayed.response) ∨
      back ≠ .whole ∧
        ∃ error, reported serde addr label (readResponse response) = .error error := by
  have small : (done replayed).code < 2 ^ 16 := (by decide : 200 < 2 ^ 16)
  have whole : reported serde addr label (.ok (done replayed).body) =
      .ok (printed label replayed.response) := by
    rw [reported, done]
    dsimp only
    rw [Utf8.decode_encode, Option.bind_some, reads, Option.bind_some,
      responseOfJson_responseJson sized]
  cases back with
  | lost => cases come
  | whole =>
      obtain rfl := Option.some.inj come
      obtain ⟨code, body⟩ := Export.Answer.read_whole small plain
      rw [readResponse_ok code, body]
      exact .inl whole
  | cut count =>
      obtain rfl := Option.some.inj come
      rcases Export.Answer.read_take small plain count with nothing | ⟨code, begins⟩
      · exact .inr ⟨fun same => (by cases same),
          readResponse_status nothing (by decide)⟩
      · rw [readResponse_ok code]
        generalize bodyAfterHeaders _ = kept at begins ⊢
        by_cases proper : kept = (done replayed).body
        · rw [proper]
          exact .inl whole
        · rw [reported, response_cut texts begins proper]
          exact .inr ⟨fun same => (by cases same), _, rfl⟩

/-- The outcome, by what has come of the request. -/
theorem Attempt.run_come (attempt : Attempt) {come : List UInt8}
    (carried : attempt.arrival.carry (replayRequest addr bearer body) = some come) :
    let handled := daemonReplay serde token rejection others attempt.answers come
    attempt.run serde token addr bearer label fields rejection others body =
      { replayed := handled.1
        result := reported serde addr label
          (match attempt.back.carry (handled.2.bytes fields) with
          | none => .unreachable
          | some response => readResponse response) } := by
  intro handled
  simp only [Attempt.run, httpPostReplay, carried, Option.map_some,
    Option.bind_some]
  rfl

theorem carry_take (passage : Passage) (bytes : List UInt8) :
    passage = .lost ∨ ∃ count, passage.carry bytes = some (bytes.take count) ∧
      (count < bytes.length → passage ≠ .whole) := by
  cases passage with
  | lost => exact .inl rfl
  | cut count => exact .inr ⟨count, rfl, fun _ same => (by cases same)⟩
  | whole =>
      refine .inr ⟨bytes.length, ?_, fun less => absurd less (Nat.lt_irrefl _)⟩
      rw [List.take_length]
      rfl

theorem carry_none {passage : Passage} {bytes : List UInt8}
    (nothing : passage.carry bytes = none) : passage ≠ .whole := by
  rintro rfl
  cases nothing

variable {attempt : Attempt}

/-- The file is replayed, and the report is that or an error; or nothing is, and
there is an error. -/
theorem run_cases (posts : Posts addr bearer fields)
    (texts : ReadsTexts serde)
    (reads : ReadsBack serde (Replay.replay serde attempt.answers body).response) :
    let outcome := attempt.run serde token addr bearer label fields rejection others
      body
    let replayed := Replay.replay serde attempt.answers body
    (outcome.replayed = some replayed ∧ Admits token bearer ∧
        body.length ≤ bodyLimitBytes ∧
        (outcome.result = .ok (printed label replayed.response) ∨
          attempt.back ≠ .whole ∧ ∃ error, outcome.result = .error error)) ∨
      outcome.replayed = none ∧ (∃ error, outcome.result = .error error) ∧
        (¬ Admits token bearer ∨ bodyLimitBytes < body.length ∨
          attempt.arrival ≠ .whole) := by
  intro outcome replayed
  rcases carry_take attempt.arrival (replayRequest addr bearer body) with
    lost | ⟨count, carried, short⟩
  · right
    have nothing : attempt.arrival.carry (replayRequest addr bearer body) = none := by
      rw [lost]
      rfl
    have ended : outcome = { replayed := none
                             result := reported serde addr label .unreachable } := by
      simp only [outcome, Attempt.run, httpPostReplay, nothing, Option.map_none,
        Option.bind_none]
    rw [ended]
    refine ⟨rfl, ⟨_, rfl⟩, .inr (.inr ?_)⟩
    rw [lost]
    exact fun same => (by cases same)
  · have ended : outcome = _ := Attempt.run_come attempt carried
    rw [ended]
    rcases daemonReplay_take posts.host posts.line count with
      ⟨admits, within, same⟩ | ⟨why, refused⟩
    · left
      rw [same]
      refine ⟨rfl, admits, within, ?_⟩
      cases come : attempt.back.carry ((done replayed).bytes fields) with
      | none => exact .inr ⟨carry_none come, _, rfl⟩
      | some response =>
          exact done_reported texts reads (replay_sized serde _ within) posts.plain
            attempt.back come
    · right
      refine ⟨refused.1, ?_, why.imp_right (.imp_right short)⟩
      cases come : attempt.back.carry (Export.Answer.bytes fields _) with
      | none => exact ⟨_, rfl⟩
      | some response =>
          exact refused_reported refused posts.plain attempt.back come

/-- All of a file is replayed or nothing is, and what is printed of it is what was
replayed, wherever the request or the answer breaks off. -/
theorem replay_over_wire (posts : Posts addr bearer fields)
    (texts : ReadsTexts serde)
    (reads : ReadsBack serde (Replay.replay serde attempt.answers body).response) :
    let outcome := attempt.run serde token addr bearer label fields rejection others
      body
    let replayed := Replay.replay serde attempt.answers body
    (outcome.replayed = none ∨ outcome.replayed = some replayed ∧
        Admits token bearer ∧ body.length ≤ bodyLimitBytes) ∧
      (∀ shown, outcome.result = .ok shown →
        outcome.replayed = some replayed ∧ shown = printed label replayed.response) ∧
      (attempt.arrival = .whole → Admits token bearer →
        body.length ≤ bodyLimitBytes → outcome.replayed = some replayed ∧
          (attempt.back = .whole →
            outcome.result = .ok (printed label replayed.response))) := by
  intro outcome replayed
  rcases run_cases posts texts reads with
    ⟨same, admits, within, result⟩ | ⟨nothing, ⟨error, failed⟩, why⟩
  · refine ⟨.inr ⟨same, admits, within⟩, ?_, fun _ _ _ => ⟨same, fun whole => ?_⟩⟩
    · intro shown ok
      rcases result with told | ⟨_, error, failed⟩
      · rw [told] at ok
        cases ok
        exact ⟨same, rfl⟩
      · rw [failed] at ok
        cases ok
    · rcases result with told | ⟨cut, _⟩
      · exact told
      · exact absurd whole cut
  · refine ⟨.inl nothing, ?_, fun whole admits within => ?_⟩
    · intro shown ok
      rw [failed] at ok
      cases ok
    · rcases why with fails | large | cut
      · exact absurd admits fails
      · exact absurd within (Nat.not_le.mpr large)
      · exact absurd whole cut

end Handled

/-! A file of one line that is no event. -/

namespace Unread

def response : Replay.ReplayResponse :=
  { replayedCount := 0, parseErrors := [⟨1, "expected value"⟩] }

def serde : Serde where
  parse _ := none
  read read :=
    if read = text (responseJson response) then some (responseJson response) else none
  parseError _ := ""
  eventError _ := "expected value"
  utf8Error _ := ""

def attempt : Attempt where
  arrival := .whole
  answers _ := .ok ()
  back := .cut 60

theorem serde_read (spelled : String) :
    serde.read spelled = if spelled = text (responseJson response) then
      some (responseJson response) else none :=
  rfl

theorem readsBack : ReadsBack serde response := by
  rw [ReadsBack, serde_read, if_pos rfl]

theorem readsTexts : ReadsTexts serde := by
  intro spelled value read
  have printed : spelled = text (responseJson response) := by
    by_contra other
    rw [serde_read, if_neg other] at read
    cases read
  rw [printed, text, String.toList_ofList]
  exact (Json.print_spells _).alone

end Unread

theorem replay_over_wire_unread :
    let outcome := Unread.attempt.run Unread.serde "t" "127.0.0.1:1" "t" "f" [] ""
      (fun _ => errorAnswer 404 "") [120]
    let replayed := Replay.replay Unread.serde Unread.attempt.answers [120]
    outcome.replayed = some replayed ∧
      ∀ shown, outcome.result = .ok shown → shown = printed "f" Unread.response := by
  intro outcome replayed
  have response : replayed.response = Unread.response := by decide +kernel
  have posts : Posts "127.0.0.1:1" "t" [] := ⟨by decide, by decide, by simp⟩
  have admits : Admits "t" "t" :=
    ⟨List.forall_mem_singleton.mpr (.inl (by decide)), by decide, rfl⟩
  have reads : ReadsBack Unread.serde replayed.response := by
    rw [response]
    exact Unread.readsBack
  obtain ⟨_, told, whole⟩ := replay_over_wire posts Unread.readsTexts reads
  refine ⟨(whole rfl admits (by decide)).1, fun shown ok => ?_⟩
  rw [← response]
  exact (told shown ok).2

end Bowerbird.Commands.ReplayWire
