import Bowerbird.Api.Router
import Bowerbird.Commands.ExportPaging
import Bowerbird.Commands.Http

namespace Bowerbird.Commands.Export

open Protocol Foundation Foundation.Http Ingest Api Api.Router Commands.Http

/-! An export over HTTP: requests and answers are bytes, and an answer may be cut
off anywhere. -/

structure Answer where
  code : Nat
  body : List UInt8
  deriving Repr, DecidableEq

def errorAnswer (code : Nat) (error : String) : Answer :=
  { code, body := Utf8.encode (text (.object [("error", .string error)])) }

def reasonPhrase : Nat → String
  | 200 => "OK"
  | 400 => "Bad Request"
  | 401 => "Unauthorized"
  | 404 => "Not Found"
  | 405 => "Method Not Allowed"
  | 413 => "Payload Too Large"
  | 500 => "Internal Server Error"
  | _ => ""

section Daemon

variable (token : String) (fields : List (List UInt8))
variable (errorText : RestError → String) (rejection : String)
variable (others : Request → Answer)

def Answer.bytes (answer : Answer) : List UInt8 :=
  render (Utf8.encode (statusLine answer.code (reasonPhrase answer.code)) :: fields)
    answer.body

/-- The handler, behind the bearer gate; `errorText` words its errors, and
`rejection` what is wrong with the path or the query. -/
def eventsAnswer (db : Option Db) (id : List UInt8) (request : Request) : Answer :=
  if requireBearer token request then
    match pathParam id, eventsParams (queryOf request.target) with
    | some sessionId, some since =>
        match Events.list sessionId since db with
        | .ok response =>
            { code := 200, body := Utf8.encode (text (responseJson response)) }
        | .error error => errorAnswer (statusCode error) (errorText error)
    | _, _ => { code := 400, body := Utf8.encode rejection }
  else errorAnswer 401 "unauthorized"

/-- The daemon; `others` are its other handlers. -/
def daemonReply (db : Option Db) (bytes : List UInt8) : List UInt8 :=
  let answer : Answer :=
    match readRequest bytes with
    | none => { code := 400, body := [] }
    | some request =>
        match endpoint (pathOf request.target) with
        | some (.events id) =>
            if request.method = Utf8.encode "GET" then
              eventsAnswer token errorText rejection db id request
            else others request
        | some _ => others request
        | none => { code := 404, body := [] }
  answer.bytes fields

end Daemon

/-- What becomes of a request and its answer. -/
inductive Passage where
  | lost
  | cut (count : Nat)
  | whole
  deriving Repr, DecidableEq

def Passage.carry (passage : Passage) (response : List UInt8) :
    Option (List UInt8) :=
  match passage with
  | lost => none
  | cut count => some (response.take count)
  | whole => some response

section Fetch

variable (serde : Serde) (addr bearer sessionId : String)

def parsePage (body : List UInt8) : Except String EventListResponse :=
  match ((Utf8.decode body).bind serde.read).bind responseOfJson with
  | some page => .ok page
  | none => .error "parse /sessions/\x7bid\x7d/events response"

/-- What an answer comes to. -/
def fetched : EventsResponse → Except String EventListResponse
  | .ok body => parsePage serde body
  | .notFound => .error ("session " ++ sessionId ++ " not found")
  | .status 401 =>
      .error ("daemon rejected bearer token; check ~/.bowerbird/config.toml or " ++
        "BOWERBIRD_TOKEN")
  | .status code => .error ("daemon returned HTTP " ++ toString code)
  | .unreachable =>
      .error ("cannot reach daemon at " ++ addr ++
        "; is it running? (try 'bowerbird start')")

/-- `fetch_events_page`, with what comes back for a request. -/
def fetchOver (reply : List UInt8 → Option (List UInt8)) (since : Int) :
    Except String EventListResponse :=
  fetched serde addr sessionId (httpGetEvents reply addr bearer sessionId since)

end Fetch

/-! The daemon finds what the command line asks for. -/

section Target

variable (sessionId : String) (since : Int)

theorem digits_dark {since : Int} {char : Char}
    (member : char ∈ (toString since).toList) :
    45 ≤ char.toNat ∧ char.toNat ≤ 57 := by
  rcases mem_toString_int member with rfl | digit
  · decide
  · have range := digit_range digit
    omega

/-- The bytes of a number are its characters. -/
theorem mem_encode_digits {since : Int} {byte : UInt8}
    (member : byte ∈ Utf8.encode (toString since)) :
    45 ≤ byte.toNat ∧ byte.toNat ≤ 57 := by
  obtain ⟨char, among, first⟩ := List.mem_flatMap.mp member
  have range := digits_dark among
  have value : char.val.toNat = char.toNat := rfl
  unfold String.utf8EncodeChar at first
  simp only [value] at first
  rw [if_pos (by omega), List.mem_singleton] at first
  have same : byte.toNat = char.toNat := by
    rw [first, UInt8.toNat_ofNat']
    omega
  omega

theorem eventsTarget_eq :
    eventsTarget sessionId since =
      (Utf8.encode "/sessions/" ++ encodePathSegment sessionId ++
        Utf8.encode "/events") ++
        questionMark :: (Utf8.encode "since=" ++ Utf8.encode (toString since)) := by
  have literal : Utf8.encode "/events?since=" =
      Utf8.encode "/events" ++ questionMark :: Utf8.encode "since=" :=
    rfl
  simp [eventsTarget, literal]

theorem path_unmarked : ∀ byte ∈ Utf8.encode "/sessions/" ++
    encodePathSegment sessionId ++ Utf8.encode "/events",
    decide (byte ≠ questionMark) = true := by
  intro byte member
  rw [decide_eq_true_eq]
  rw [List.mem_append, List.mem_append] at member
  rintro rfl
  rcases member with (member | member) | member
  · exact absurd member (by decide)
  · exact (encodePathSegment_dark member).2.2 rfl
  · exact absurd member (by decide)

theorem pathOf_eventsTarget :
    pathOf (eventsTarget sessionId since) =
      Utf8.encode "/sessions/" ++ encodePathSegment sessionId ++
        Utf8.encode "/events" := by
  rw [pathOf, eventsTarget_eq,
    List.takeWhile_append_of_pos (path_unmarked sessionId),
    List.takeWhile_cons_of_neg (by simp), List.append_nil]

theorem queryOf_eventsTarget :
    queryOf (eventsTarget sessionId since) =
      Utf8.encode "since=" ++ Utf8.encode (toString since) := by
  rw [queryOf, eventsTarget_eq,
    List.dropWhile_append_of_pos (path_unmarked sessionId),
    List.dropWhile_cons_of_neg (by simp)]
  rfl

theorem endpoint_events {sessionId : String} (named : sessionId ≠ "") :
    endpoint (Utf8.encode "/sessions/" ++ encodePathSegment sessionId ++
      Utf8.encode "/events") = some (.events (encodePathSegment sessionId)) := by
  have parts : Utf8.encode "/sessions/" ++ encodePathSegment sessionId ++
      Utf8.encode "/events" =
        [slash].intercalate [[], Utf8.encode "sessions",
          encodePathSegment sessionId, Utf8.encode "events"] := by
    have first : Utf8.encode "/sessions/" =
        slash :: (Utf8.encode "sessions" ++ [slash]) := rfl
    have last : Utf8.encode "/events" = slash :: Utf8.encode "events" := rfl
    simp [first, last, List.intercalate]
  have filled : encodePathSegment sessionId ≠ [] := by
    intro empty
    have bytes := PercentCode.encode_eq_nil.mp empty
    apply named
    apply Utf8.encode_injective
    exact bytes
  rw [endpoint, parts, List.splitOn_intercalate]
  · dsimp only
    rw [if_pos ⟨rfl, filled⟩, if_pos rfl]
  · intro part member
    simp only [List.mem_cons, List.not_mem_nil, or_false] at member
    rcases member with rfl | rfl | rfl | rfl
    · decide
    · decide
    · exact fun member => (encodePathSegment_dark member).2.1 rfl
    · decide
  · simp

theorem pathParam_encode : pathParam (encodePathSegment sessionId) = some sessionId := by
  rw [pathParam, encodePathSegment, PercentCode.decode_encode (by decide),
    Utf8.decode_encode]

theorem decode_plain {bytes : List UInt8}
    (plain : PercentCode.percent ∉ bytes) : PercentCode.decode bytes = bytes := by
  induction bytes with
  | nil => rfl
  | cons byte rest induction =>
      rw [List.mem_cons, not_or] at plain
      rw [PercentCode.decode_plain (fun same => plain.1 same.symm),
        induction plain.2]

theorem formDecode_encode {text : String}
    (unsigned : (43 : UInt8) ∉ Utf8.encode text)
    (plain : PercentCode.percent ∉ Utf8.encode text) :
    formDecode (Utf8.encode text) = text := by
  have kept : (Utf8.encode text).map (fun byte => if byte = 43 then 32 else byte) =
      Utf8.encode text := by
    rw [List.map_congr_left (g := id), List.map_id]
    intro byte member
    rw [if_neg]
    · rfl
    · rintro rfl
      exact unsigned member
  rw [formDecode, kept, decode_plain plain, Utf8.decode_encode]
  rfl

theorem eventsParams_since {since : Int} (small : EventJson.inI64 since = true) :
    eventsParams (Utf8.encode "since=" ++ Utf8.encode (toString since)) =
      some since := by
  have absent (byte : UInt8) (out : byte.toNat < 45 ∨ 57 < byte.toNat) :
      byte ∉ Utf8.encode (toString since) := by
    intro member
    have range := mem_encode_digits member
    omega
  have key : Utf8.encode "since=" = Utf8.encode "since" ++ [61] := rfl
  have named : ∀ byte ∈ Utf8.encode "since", decide (byte ≠ 61) = true :=
    List.all_eq_true.mp rfl
  have alone : (Utf8.encode "since=" ++ Utf8.encode (toString since)).splitOn 38 =
      [Utf8.encode "since=" ++ Utf8.encode (toString since)] := by
    apply List.splitOn_eq_singleton
    rw [List.mem_append, not_or]
    exact ⟨by decide, absent 38 (by decide)⟩
  have takes : (Utf8.encode "since=" ++ Utf8.encode (toString since)).takeWhile
      (· ≠ 61) = Utf8.encode "since" := by
    rw [key, List.append_assoc, List.takeWhile_append_of_pos named]
    exact List.append_nil _
  have drops : (Utf8.encode "since=" ++ Utf8.encode (toString since)).dropWhile
      (· ≠ 61) = 61 :: Utf8.encode (toString since) := by
    rw [key, List.append_assoc, List.dropWhile_append_of_pos named]
    rfl
  have filled : (!(Utf8.encode "since=" ++ Utf8.encode (toString since)).isEmpty) =
      true := by
    rw [key]
    rfl
  have pairs : formPairs (Utf8.encode "since=" ++ Utf8.encode (toString since)) =
      [("since", toString since)] := by
    rw [formPairs, alone, List.filter_cons, if_pos filled, List.filter_nil,
      List.map_singleton, takes, drops, List.drop_one, List.tail_cons,
      formDecode_encode (by decide) (by decide),
      formDecode_encode (absent 43 (by decide)) (absent 37 (by decide))]
  rw [eventsParams, pairs]
  dsimp only
  rw [if_pos rfl, parseI64_toString small]

end Target

/-! What the command line makes of an answer. -/

theorem unbroken_reasonPhrase (code : Nat) : Http.Unbroken (reasonPhrase code) := by
  unfold reasonPhrase
  split <;> exact ⟨by decide, by decide⟩

section Answered

variable {fields : List (List UInt8)} {answer : Answer}

theorem Answer.read_whole (small : answer.code < 2 ^ 16)
    (plain : ∀ line ∈ fields, Plain line) :
    statusOf (answer.bytes fields) = answer.code ∧
      bodyAfterHeaders (answer.bytes fields) = answer.body :=
  statusOf_bodyAfterHeaders small (unbroken_reasonPhrase answer.code) plain

theorem Answer.read_take (small : answer.code < 2 ^ 16)
    (plain : ∀ line ∈ fields, Plain line) (count : Nat) :
    statusOf ((answer.bytes fields).take count) = 0 ∨
      statusOf ((answer.bytes fields).take count) = answer.code ∧
        bodyAfterHeaders ((answer.bytes fields).take count) <+: answer.body :=
  statusOf_bodyAfterHeaders_take small (unbroken_reasonPhrase answer.code) plain
    count

end Answered

/-- What an export over HTTP counts on; `fields` are the header lines of the
answers, one after the other. -/
structure Reaches (token addr bearer sessionId : String)
    (fields : Nat → List (List UInt8)) : Prop where
  host : Http.Unbroken addr
  admits : Admits token bearer
  named : sessionId ≠ ""
  plain : ∀ request, ∀ line ∈ fields request, Plain line

/-- The library reads nothing but JSON texts. -/
def ReadsTexts (serde : Serde) : Prop :=
  ∀ text value, serde.read text = some value → Json.IsText text.toList

theorem unbroken_of_visible {text : String} (visible : Visible text.toList) :
    Http.Unbroken text := by
  constructor
  · intro member
    have shown := visible _ member
    revert shown
    decide
  · intro member
    have shown := visible _ member
    revert shown
    decide

section Fetched

variable {serde : Serde} {token addr bearer sessionId : String} {since : Int}
variable {fields : List (List UInt8)} {allFields : Nat → List (List UInt8)}
variable {errorText : RestError → String} {rejection : String}
variable {others : Request → Answer} {db : Option Db}

/-- What the daemon answers to a request for a page. -/
def listAnswer (errorText : RestError → String) :
    Except RestError EventListResponse → Answer
  | .ok response => { code := 200, body := Utf8.encode (text (responseJson response)) }
  | .error error => errorAnswer (statusCode error) (errorText error)

theorem daemonReply_events
    (reaches : Reaches token addr bearer sessionId allFields)
    (small : EventJson.inI64 since = true) :
    daemonReply token fields errorText rejection others db
        (eventsRequest addr bearer sessionId since) =
      (listAnswer errorText (Events.list sessionId since db)).bytes fields := by
  have passes (request : Request) (same : request.fields =
      received (headed addr bearer [("Accept", "application/json")])) :
      requireBearer token request = true := by
    refine requireBearer_iff ?_ |>.mpr reaches.admits
    rw [authorization, same]
    exact lookup_authorization addr bearer _
  unfold daemonReply
  rw [eventsRequest_read reaches.host (unbroken_of_visible reaches.admits.1)]
  dsimp only
  rw [pathOf_eventsTarget, endpoint_events reaches.named]
  dsimp only
  rw [if_pos rfl, eventsAnswer, if_pos (passes _ rfl), pathParam_encode,
    queryOf_eventsTarget, eventsParams_since small]
  dsimp only
  cases Events.list sessionId since db <;> rfl

theorem statusCode_cases (error : RestError) :
    statusCode error = 400 ∨ statusCode error = 404 ∨ statusCode error = 500 := by
  cases error <;> simp [statusCode]

/-- An object that has not come whole is not read. -/
theorem read_cut (texts : ReadsTexts serde) (members : List (String × Json.Value))
    {kept : List UInt8} (begins : kept <+: Utf8.encode (text (.object members)))
    (proper : kept ≠ Utf8.encode (text (.object members))) :
    (Utf8.decode kept).bind serde.read = none := by
  cases decoded : Utf8.decode kept with
  | none => rfl
  | some front =>
      rw [Utf8.decode_eq_some.mp decoded] at begins proper
      cases read : serde.read front with
      | none => exact read
      | some value =>
          have spelled := texts front value read
          have early := Utf8.isPrefix_of_encode begins
          rw [text, String.toList_ofList] at early
          refine absurd spelled (Json.not_isText_of_cut early ?_)
          intro same
          apply proper
          rw [text, ← same, String.ofList_toList]

theorem listAnswer_small (listed : Except RestError EventListResponse) :
    (listAnswer errorText listed).code < 2 ^ 16 := by
  cases listed with
  | ok response => exact (by decide : 200 < 2 ^ 16)
  | error error =>
      have code : (listAnswer errorText (.error error)).code = statusCode error := rfl
      rcases statusCode_cases error with same | same | same <;>
        rw [code, same] <;> decide

theorem listAnswer_code (response : EventListResponse) :
    (listAnswer errorText (.ok response)).code = 200 :=
  rfl

theorem listAnswer_body (response : EventListResponse) :
    (listAnswer errorText (.ok response)).body =
      Utf8.encode (text (responseJson response)) :=
  rfl

theorem fetched_ok (body : List UInt8) :
    fetched serde addr sessionId (eventsOutcome 200 body) =
      parsePage serde body :=
  rfl

theorem fetched_error (error : RestError) (body : List UInt8) :
    fetched serde addr sessionId (eventsOutcome (statusCode error) body) =
      if statusCode error = 404 then .error ("session " ++ sessionId ++ " not found")
      else .error ("daemon returned HTTP " ++ toString (statusCode error)) := by
  cases error <;> rfl

theorem fetchEventsPage_ok {response : EventListResponse}
    (listed : Events.list sessionId since db = .ok response) :
    fetchEventsPage serde db sessionId since =
      parsePage serde (Utf8.encode (text (responseJson response))) := by
  cases page : ((Utf8.decode (Utf8.encode (text (responseJson response)))).bind
      serde.read).bind responseOfJson <;>
    simp only [fetchEventsPage, parsePage, listed, page]

theorem fetchEventsPage_error {error : RestError}
    (listed : Events.list sessionId since db = .error error) :
    fetchEventsPage serde db sessionId since =
      if statusCode error = 404 then .error ("session " ++ sessionId ++ " not found")
      else .error ("daemon returned HTTP " ++ toString (statusCode error)) := by
  unfold fetchEventsPage
  simp only [listed]

/-- An answer that has come whole is what the list says. -/
theorem fetched_whole (plain : ∀ line ∈ fields, Plain line) :
    fetched serde addr sessionId (readEventsResponse
        ((listAnswer errorText (Events.list sessionId since db)).bytes fields)) =
      fetchEventsPage serde db sessionId since := by
  obtain ⟨code, body⟩ := Answer.read_whole
    (listAnswer_small (Events.list sessionId since db)) plain
  rw [readEventsResponse_eq, code, body]
  cases listed : Events.list sessionId since db with
  | ok response =>
      rw [listAnswer_code, listAnswer_body, fetched_ok, fetchEventsPage_ok listed]
  | error error =>
      rw [fetchEventsPage_error listed]
      exact fetched_error error _

/-- An answer that is cut off is what the list says, or an error. -/
theorem fetched_take (texts : ReadsTexts serde)
    (plain : ∀ line ∈ fields, Plain line) (count : Nat) :
    fetched serde addr sessionId (readEventsResponse
        (((listAnswer errorText (Events.list sessionId since db)).bytes fields).take
          count)) = fetchEventsPage serde db sessionId since ∨
      ∃ error, fetched serde addr sessionId (readEventsResponse
        (((listAnswer errorText (Events.list sessionId since db)).bytes fields).take
          count)) = .error error := by
  rw [readEventsResponse_eq]
  rcases Answer.read_take (listAnswer_small (Events.list sessionId since db))
      plain count with nothing | ⟨code, begins⟩
  · rw [nothing]
    exact .inr ⟨_, rfl⟩
  · rw [code]
    generalize bodyAfterHeaders _ = kept at begins ⊢
    cases listed : Events.list sessionId since db with
    | error error =>
        right
        have same : (listAnswer errorText (.error error)).code = statusCode error := rfl
        rw [same, fetched_error]
        split <;> exact ⟨_, rfl⟩
    | ok response =>
        rw [listed, listAnswer_body] at begins
        rw [listAnswer_code, fetched_ok]
        by_cases proper : kept = Utf8.encode (text (responseJson response))
        · left
          rw [proper, fetchEventsPage_ok listed]
        · right
          rw [parsePage, read_cut texts _ begins proper]
          exact ⟨_, rfl⟩

theorem fetchOver_carried (texts : ReadsTexts serde)
    (reaches : Reaches token addr bearer sessionId allFields) (request : Nat)
    (small : EventJson.inI64 since = true) (passage : Passage) :
    let reply := fun bytes => passage.carry
      (daemonReply token (allFields request) errorText rejection others db bytes)
    fetchOver serde addr bearer sessionId reply since =
        fetchEventsPage serde db sessionId since ∨
      passage ≠ .whole ∧
        ∃ error, fetchOver serde addr bearer sessionId reply since = .error error := by
  intro reply
  rw [fetchOver, httpGetEvents]
  cases passage with
  | lost => exact .inr ⟨by decide, _, rfl⟩
  | whole =>
      left
      simp only [reply, Passage.carry, daemonReply_events reaches small]
      exact fetched_whole (reaches.plain request)
  | cut count =>
      simp only [reply, Passage.carry, daemonReply_events reaches small]
      rcases fetched_take texts (reaches.plain request) count with same | failed
      · exact .inl same
      · exact .inr ⟨fun same => (by cases same), failed⟩

end Fetched

/-! The loop over the pages, wherever they come from. -/

section Loop

/-- The loop of `run`; `fetch` is what a request brings. -/
def writeFetched (fetch : Nat → Int → Except String EventListResponse) :
    Nat → Nat → Int → EventListResponse → Option (Except String (List UInt8))
  | 0, _, _, _ => none
  | fuel + 1, request, since, page =>
      let written := page.events.flatMap line
      match page.cursor with
      | none => some (.ok written)
      | some cursor =>
          if cursor ≤ since then
            some (.error ("daemon returned non-increasing cursor (" ++
              toString since ++ " -> " ++ toString cursor ++
              "); export would loop"))
          else
            match fetch request cursor with
            | .error error => some (.error error)
            | .ok next =>
                (writeFetched fetch fuel (request + 1) cursor next).map
                  (·.map fun later => written ++ later)

def runFetched (fetch : Nat → Int → Except String EventListResponse)
    (fuel : Nat) : Option (Except String (List UInt8)) :=
  match fetch 0 0 with
  | .error error => some (.error error)
  | .ok page => writeFetched fetch fuel 1 0 page

/-- The requests that the loop makes, with the numbers that they ask from. -/
def askedAfter (fetch : Nat → Int → Except String EventListResponse) :
    Nat → Nat → Int → EventListResponse → List (Nat × Int)
  | 0, _, _, _ => []
  | fuel + 1, request, since, page =>
      match page.cursor with
      | none => []
      | some cursor =>
          if cursor ≤ since then []
          else
            (request, cursor) ::
              match fetch request cursor with
              | .error _ => []
              | .ok next => askedAfter fetch fuel (request + 1) cursor next

def asked (fetch : Nat → Int → Except String EventListResponse) (fuel : Nat) :
    List (Nat × Int) :=
  (0, 0) ::
    match fetch 0 0 with
    | .error _ => []
    | .ok page => askedAfter fetch fuel 1 0 page

variable {serde : Serde} {dbs : Nat → Option Db} {sessionId : String}

theorem runFetched_list (fuel : Nat) :
    runFetched (fun request since =>
        fetchEventsPage serde (dbs request) sessionId since) fuel =
      runLive serde dbs sessionId fuel := by
  have pages (request : Nat) (since : Int) (page : EventListResponse) :
      writeFetched (fun request since =>
          fetchEventsPage serde (dbs request) sessionId since)
          fuel request since page =
        writeLive serde dbs sessionId fuel request since page := by
    induction fuel generalizing request since page with
    | zero => rfl
    | succ fuel induction =>
        rw [writeFetched, writeLive]
        cases page.cursor with
        | none => rfl
        | some cursor =>
            dsimp only
            split
            · rfl
            · cases fetchEventsPage serde (dbs request) sessionId cursor with
              | error error => rfl
              | ok next =>
                  dsimp only
                  rw [induction]
  rw [runFetched, runLive]
  cases fetchEventsPage serde (dbs 0) sessionId 0 with
  | error error => rfl
  | ok page => exact pages 1 0 page

/-- A source of pages that gives what another gives, or breaks and gives an
error. -/
def Falters (broken : Nat → Prop)
    (fetch wanted : Nat → Int → Except String EventListResponse) : Prop :=
  ∀ request since, EventJson.inI64 since = true →
    fetch request since = wanted request since ∨
      broken request ∧ ∃ error, fetch request since = .error error

/-- The next page is asked for by a number of SQLite's. -/
def LeadsOn (page : EventListResponse) : Prop :=
  ∀ cursor, page.cursor = some cursor → EventJson.inI64 cursor = true

variable {broken : Nat → Prop}
variable {fetch wanted : Nat → Int → Except String EventListResponse}

/-- The last of the requests that were made broke, and its error ended the run. -/
def BrokeOff (broken : Nat → Prop)
    (fetch : Nat → Int → Except String EventListResponse)
    (asked : List (Nat × Int)) (result : Option (Except String (List UInt8))) : Prop :=
  ∃ request since error, asked.getLast? = some (request, since) ∧ broken request ∧
    fetch request since = .error error ∧ result = some (.error error)

section BrokeOff

variable {asked : List (Nat × Int)} {result : Option (Except String (List UInt8))}

theorem BrokeOff.cons (breaks : BrokeOff broken fetch asked result)
    (first : Nat × Int) : BrokeOff broken fetch (first :: asked) result := by
  obtain ⟨request, since, error, last, rest⟩ := breaks
  refine ⟨request, since, error, ?_, rest⟩
  rw [List.getLast?_cons, last]
  rfl

/-- What was written before does not matter. -/
theorem BrokeOff.map (breaks : BrokeOff broken fetch asked result)
    (written : List UInt8) :
    BrokeOff broken fetch asked (result.map (·.map fun later => written ++ later)) := by
  obtain ⟨request, since, error, last, broke, failed, rfl⟩ := breaks
  exact ⟨request, since, error, last, broke, failed, rfl⟩

end BrokeOff

/-- A loop whose pages falter writes what the other writes, or fails. -/
theorem writeFetched_falters (falters : Falters broken fetch wanted)
    (leads : ∀ request since page, wanted request since = .ok page → LeadsOn page)
    (fuel request : Nat) (since : Int) {page : EventListResponse}
    (first : LeadsOn page) :
    writeFetched fetch fuel request since page =
        writeFetched wanted fuel request since page ∨
      BrokeOff broken fetch (askedAfter fetch fuel request since page)
        (writeFetched fetch fuel request since page) := by
  induction fuel generalizing request since page with
  | zero => exact .inl rfl
  | succ fuel induction =>
      rw [writeFetched, writeFetched, askedAfter]
      cases found : page.cursor with
      | none => exact .inl rfl
      | some cursor =>
          dsimp only
          by_cases stuck : cursor ≤ since
          · rw [if_pos stuck, if_pos stuck]
            exact .inl rfl
          · rw [if_neg stuck, if_neg stuck, if_neg stuck]
            rcases falters request cursor (first cursor found) with
              same | ⟨breaks, error, failed⟩
            · rw [same]
              cases listed : wanted request cursor with
              | error error => exact .inl rfl
              | ok next =>
                  dsimp only
                  rcases induction (request + 1) cursor
                    (leads request cursor next listed) with same | breaks
                  · rw [same]
                    exact .inl rfl
                  · exact .inr ((breaks.map _).cons _)
            · rw [failed]
              exact .inr ⟨request, cursor, error, rfl, breaks, failed, rfl⟩

theorem runFetched_falters (falters : Falters broken fetch wanted)
    (leads : ∀ request since page, wanted request since = .ok page → LeadsOn page)
    (fuel : Nat) :
    runFetched fetch fuel = runFetched wanted fuel ∨
      BrokeOff broken fetch (asked fetch fuel) (runFetched fetch fuel) := by
  rw [runFetched, runFetched, asked]
  rcases falters 0 0 (by decide) with same | ⟨breaks, error, failed⟩
  · rw [same]
    cases listed : wanted 0 0 with
    | error error => exact .inl rfl
    | ok page =>
        exact (writeFetched_falters falters leads fuel 1 0
          (leads 0 0 page listed)).imp_right (·.cons _)
  · rw [failed]
    exact .inr ⟨0, 0, error, rfl, breaks, failed, rfl⟩

end Loop

/-! The pages that the list gives lead on. -/

theorem inI64_of_asI64 {value : Json.Value} {number : Int}
    (read : EventJson.asI64 value = some number) :
    EventJson.inI64 number = true := by
  unfold EventJson.asI64 at read
  split at read
  · split at read
    · cases read
      rw [EventJson.inI64, Bool.and_eq_true, decide_eq_true_eq, decide_eq_true_eq]
      omega
    · cases read
  · split at read
    · cases read
      assumption
    · cases read
  · cases read

theorem inI64_of_optional {value : Json.Value} {number : Int}
    (read : EventJson.optional EventJson.asI64 value = some (some number)) :
    EventJson.inI64 number = true := by
  unfold EventJson.optional at read
  split at read
  · cases read
  · obtain ⟨_, found, same⟩ := Option.map_eq_some_iff.mp read
    cases same
    exact inI64_of_asI64 found

theorem inI64_of_defaulted {fields : List (String × Json.Value)} {name : String}
    {number : Int}
    (read : EventJson.defaulted EventJson.asI64 fields name = some (some number)) :
    EventJson.inI64 number = true := by
  unfold EventJson.defaulted at read
  split at read
  · cases read
  · cases read
  · exact inI64_of_optional read

theorem leadsOn_of_responseOfJson {value : Json.Value} {page : EventListResponse}
    (read : responseOfJson value = some page) : LeadsOn page := by
  intro number found
  unfold responseOfJson at read
  split at read
  · simp only [Option.bind_eq_bind, Option.bind_eq_some_iff, Option.pure_def,
      Option.some.injEq] at read
    obtain ⟨_, _, cursor, defaulted, _, _, rfl⟩ := read
    rw [show cursor = some number from found] at defaulted
    exact inI64_of_defaulted defaulted
  · simp only [Option.bind_eq_bind, Option.bind_eq_some_iff, Option.pure_def,
      Option.some.injEq] at read
    obtain ⟨_, _, cursor, optional, _, _, rfl⟩ := read
    rw [show cursor = some number from found] at optional
    exact inI64_of_optional optional
  · cases read

theorem leadsOn_of_parsePage {serde : Serde} {body : List UInt8}
    {page : EventListResponse} (parsed : parsePage serde body = .ok page) :
    LeadsOn page := by
  unfold parsePage at parsed
  cases read : ((Utf8.decode body).bind serde.read).bind responseOfJson with
  | none =>
      rw [read] at parsed
      cases parsed
  | some found =>
      rw [read] at parsed
      cases parsed
      obtain ⟨value, _, read⟩ := Option.bind_eq_some_iff.mp read
      exact leadsOn_of_responseOfJson read

theorem leadsOn_of_fetchEventsPage {serde : Serde} {db : Option Db}
    {sessionId : String} {since : Int} {page : EventListResponse}
    (listed : fetchEventsPage serde db sessionId since = .ok page) :
    LeadsOn page := by
  cases found : Events.list sessionId since db with
  | error error =>
      rw [fetchEventsPage_error found] at listed
      split at listed <;> cases listed
  | ok response =>
      rw [fetchEventsPage_ok found] at listed
      exact leadsOn_of_parsePage listed

/-! An export over a connection that may fail. -/

section Wire

variable (serde : Serde) (token addr bearer sessionId : String)
variable (fields : Nat → List (List UInt8)) (errorText : RestError → String)
variable (rejection : String) (others : Request → Answer)
variable (dbs : Nat → Option Db) (passages : Nat → Passage)

/-- What a request brings over HTTP. -/
def fetchWire (request : Nat) (since : Int) : Except String EventListResponse :=
  fetchOver serde addr bearer sessionId (fun bytes => (passages request).carry
    (daemonReply token (fields request) errorText rejection others (dbs request)
      bytes)) since

/-- `export` over HTTP; each request has its own connection. -/
def runWire (fuel : Nat) : Option (Except String (List UInt8)) :=
  runFetched (fetchWire serde token addr bearer sessionId fields errorText
    rejection others dbs passages) fuel

end Wire

section Exported

variable {serde : Serde} {token addr bearer sessionId : String}
variable {fields : Nat → List (List UInt8)} {errorText : RestError → String}
variable {rejection : String} {others : Request → Answer}

/-- Over HTTP an export is what it is over the lists, or fails at its last request,
whose answer did not come whole. -/
theorem runWire_list (texts : ReadsTexts serde)
    (reaches : Reaches token addr bearer sessionId fields)
    (dbs : Nat → Option Db) (passages : Nat → Passage) (fuel : Nat) :
    let fetch := fetchWire serde token addr bearer sessionId fields errorText rejection
      others dbs passages
    let result := runWire serde token addr bearer sessionId fields errorText rejection
      others dbs passages fuel
    result = runLive serde dbs sessionId fuel ∨
      BrokeOff (fun request => passages request ≠ .whole) fetch (asked fetch fuel)
        result := by
  intro fetch result
  rw [← runFetched_list]
  have falters : Falters (fun request => passages request ≠ .whole)
      (fetchWire serde token addr bearer sessionId fields errorText rejection others
        dbs passages)
      (fun request since => fetchEventsPage serde (dbs request) sessionId since) :=
    fun request since small => fetchOver_carried texts reaches request small _
  exact runFetched_falters falters
    (fun _ _ _ listed => leadsOn_of_fetchEventsPage listed) fuel

/-- An export that goes on over the growing log ends with all of the history. -/
theorem runLive_served {dbs : Nat → Db} (served : Served dbs sessionId serde)
    (fuel : Nat) :
    let result := runLive serde (fun request => some (dbs request)) sessionId fuel
    (∃ last < fuel,
        result = some (.ok ((history (dbs last).events sessionId).flatMap line)) ∧
        (pageAt dbs sessionId last).events = []) ∨
      (result = none ∧
        ∀ request < fuel, (pageAt dbs sessionId request).events ≠ []) := by
  intro result
  have fetched : fetchEventsPage serde (some (dbs 0)) sessionId 0 =
      .ok (pageAt dbs sessionId 0) := served.fetched 0
  have begins : result =
      writeLive serde (fun request => some (dbs request)) sessionId fuel 1
        (sinceAt dbs sessionId 0) (pageAt dbs sessionId 0) := by
    simp only [result, runLive, fetched]
    rfl
  rw [begins]
  rcases writeLive_ends served fuel (complete_zero served) with
    ⟨unfinished, more⟩ | ⟨last, written, below, wrote, ends⟩
  · exact .inr ⟨unfinished, fun request before =>
      more request (Nat.zero_le _) (by omega)⟩
  · obtain ⟨events, same, whole⟩ := ends.whole
    rw [broughtBefore, List.nil_append] at whole
    refine .inl ⟨last, by omega, ?_, ends.ended⟩
    rw [← whole, ← same]
    exact wrote

/-- However the log grows and the connections fail, an export that is reported done
has written all of the history as its last request found it. -/
theorem export_over_wire {dbs : Nat → Db} (texts : ReadsTexts serde)
    (reaches : Reaches token addr bearer sessionId fields)
    (served : Served dbs sessionId serde) (passages : Nat → Passage) (fuel : Nat) :
    let fetch := fetchWire serde token addr bearer sessionId fields errorText rejection
      others (fun request => some (dbs request)) passages
    let result := runWire serde token addr bearer sessionId fields errorText
      rejection others (fun request => some (dbs request)) passages fuel
    (∃ last < fuel,
        result = some (.ok ((history (dbs last).events sessionId).flatMap line)) ∧
        (pageAt dbs sessionId last).events = []) ∨
      BrokeOff (fun request => passages request ≠ .whole) fetch (asked fetch fuel)
        result ∨
      (result = none ∧
        ∀ request < fuel, (pageAt dbs sessionId request).events ≠ []) := by
  intro fetch result
  have listed : result =
        runLive serde (fun request => some (dbs request)) sessionId fuel ∨
      BrokeOff (fun request => passages request ≠ .whole) fetch (asked fetch fuel)
        result :=
    runWire_list texts reaches _ passages fuel
  rcases listed with same | failed
  · rw [same]
    rcases runLive_served served fuel with ended | unfinished
    · exact .inl ended
    · exact .inr (.inr unfinished)
  · exact .inr (.inl failed)

theorem readsTexts_grown : ReadsTexts Grown.serde := by
  intro spelled value read
  have printed := List.find?_some read
  rw [decide_eq_true_eq] at printed
  rw [← printed]
  exact (Json.print_spells _).alone

/-- The second answer is cut off in the middle of its page. -/
theorem export_over_wire_cut :
    let passages (request : Nat) : Passage := if request = 1 then .cut 90 else .whole
    let fetch := fetchWire Grown.serde "t" "127.0.0.1:1" "t" "a" (fun _ => [])
      (fun _ => "") "" (fun _ => errorAnswer 404 "")
      (fun request => some (Grown.dbs request)) passages
    let result := runWire Grown.serde "t" "127.0.0.1:1" "t" "a" (fun _ => [])
      (fun _ => "") "" (fun _ => errorAnswer 404 "")
      (fun request => some (Grown.dbs request)) passages 3
    (∃ last < 3,
        result = some (.ok ((history (Grown.dbs last).events "a").flatMap line)) ∧
        (pageAt Grown.dbs "a" last).events = []) ∨
      BrokeOff (fun request => passages request ≠ .whole) fetch (asked fetch 3)
        result := by
  intro passages fetch result
  have reaches : Reaches "t" "127.0.0.1:1" "t" "a" (fun _ => []) :=
    ⟨by decide, ⟨List.forall_mem_singleton.mpr (.inl (by decide)), by decide, rfl⟩,
      by decide, by simp⟩
  have empty : (pageAt Grown.dbs "a" 2).events = [] := by decide
  refine Or.imp_right (fun ended => ended.resolve_right fun unfinished => ?_)
    (export_over_wire readsTexts_grown reaches Grown.served passages 3)
  exact unfinished.2 2 (by decide) empty

end Exported

end Bowerbird.Commands.Export
