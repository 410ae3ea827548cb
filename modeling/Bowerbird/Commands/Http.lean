import Bowerbird.Api.Filter
import Bowerbird.Db.Codec
import Bowerbird.Foundation.HttpMessage

namespace Bowerbird.Commands.Http

open Foundation Foundation.Http

/-! The command line's own HTTP: requests written by hand, and answers that are
read as far as they come. -/

/-- What stands for itself in a path. -/
def isUnreserved (byte : UInt8) : Bool :=
  let code := byte.toNat
  (65 ≤ code && code ≤ 90) || (97 ≤ code && code ≤ 122) ||
    (48 ≤ code && code ≤ 57) || code == 45 || code == 95 || code == 46 ||
    code == 126

/-- The bytes that the request takes in; all of them are ASCII. -/
def encodePathSegment (text : String) : List UInt8 :=
  PercentCode.encode isUnreserved (Utf8.encode text)

/-- A head: the method and the target, and the fields, each on a line. -/
def message (start : List UInt8) (fields : List (String × String)) :
    List UInt8 :=
  start ++ Utf8.encode " HTTP/1.1\r\n" ++
    fields.flatMap (fun entry =>
      Utf8.encode (entry.1 ++ ": " ++ entry.2 ++ "\r\n")) ++
    Utf8.encode "\r\n"

def statusRequest (addr : String) (bearer : Option String) : List UInt8 :=
  message (Utf8.encode "GET /status")
    ([("Host", addr), ("Connection", "close")] ++
      (bearer.map fun token => ("Authorization", "Bearer " ++ token)).toList ++
      [("Accept", "application/json")])

def replayRequest (addr bearer : String) (body : List UInt8) : List UInt8 :=
  message (Utf8.encode "POST /replay")
    [("Host", addr), ("Connection", "close"),
      ("Authorization", "Bearer " ++ bearer),
      ("Content-Type", "application/x-ndjson"),
      ("Content-Length", toString body.length),
      ("Accept", "application/json")] ++ body

def eventsRequest (addr bearer sessionId : String) (since : Int) :
    List UInt8 :=
  message (Utf8.encode "GET /sessions/" ++ encodePathSegment sessionId ++
      Utf8.encode ("/events?since=" ++ toString since))
    [("Host", addr), ("Connection", "close"),
      ("Authorization", "Bearer " ++ bearer), ("Accept", "application/json")]

/-! Reading an answer. -/

def findSubslice (haystack needle : List UInt8) : Option Nat :=
  if needle = [] ∨ haystack.length < needle.length then none
  else (List.range (haystack.length - needle.length + 1)).find? fun index =>
    (haystack.drop index).take needle.length = needle

def bodyAfterHeaders (response : List UInt8) : List UInt8 :=
  match findSubslice response blankLine with
  | some place => response.drop (place + 4)
  | none =>
      match findSubslice response bareBlankLine with
      | some place => response.drop (place + 2)
      | none => []

def splitWhitespace (text : List Char) : List (List Char) :=
  (text.splitOnP Api.isWhitespace).filter (!·.isEmpty)

def parseStatusCode (response : List UInt8) : Option (Fin (2 ^ 16)) :=
  if lineFeed ∉ response then none
  else do
    let line ← Utf8.decode (response.takeWhile (· ≠ lineFeed))
    match splitWhitespace line.toList with
    | _ :: code :: _ => Db.parseU16 code
    | _ => none

/-- No status is the same as the status 0. -/
def statusOf (response : List UInt8) : Nat :=
  ((parseStatusCode response).map Fin.val).getD 0

inductive HealthzOutcome where
  | ok
  | unhealthy
  | unreachable
  deriving Repr, DecidableEq

inductive StatusResponse where
  | ok (body : List UInt8)
  | status (code : Nat)
  | unreachable
  deriving Repr, DecidableEq

inductive EventsResponse where
  | ok (body : List UInt8)
  | notFound
  | status (code : Nat)
  | unreachable
  deriving Repr, DecidableEq

/-- How `/replay` is read, and `/status` too. -/
def readResponse (response : List UInt8) : StatusResponse :=
  let code := statusOf response
  if code = 200 then .ok (bodyAfterHeaders response)
  else if code = 0 then .unreachable
  else .status code

def readEventsResponse (response : List UInt8) : EventsResponse :=
  match statusOf response with
  | 200 => .ok (bodyAfterHeaders response)
  | 404 => .notFound
  | 0 => .unreachable
  | code => .status code

/-! The exchanges.  `reply` is what comes back for a request, if it can be sent. -/

section Exchange

variable (reply : List UInt8 → Option (List UInt8))

def httpPostReplay (addr bearer : String) (body : List UInt8) : StatusResponse :=
  match reply (replayRequest addr bearer body) with
  | none => .unreachable
  | some response => readResponse response

def httpGetEvents (addr bearer sessionId : String) (since : Int) :
    EventsResponse :=
  match reply (eventsRequest addr bearer sessionId since) with
  | none => .unreachable
  | some response => readEventsResponse response

end Exchange

/-! A request is read as it was meant. -/

/-- The text stays on its line. -/
def Unbroken (text : String) : Prop :=
  '\n' ∉ text.toList ∧ '\r' ∉ text.toList

instance (text : String) : Decidable (Unbroken text) :=
  inferInstanceAs (Decidable (_ ∧ _))

/-- The text can be the name of a field. -/
def Naming (name : String) : Prop :=
  Unbroken name ∧ colon ∉ Utf8.encode name

instance (name : String) : Decidable (Naming name) :=
  inferInstanceAs (Decidable (_ ∧ _))

theorem Unbroken.bytes {text : String} (unbroken : Unbroken text) :
    lineFeed ∉ Utf8.encode text ∧ carriageReturn ∉ Utf8.encode text := by
  constructor
  · exact fun member => unbroken.1 ((Utf8.mem_encode_ascii (by decide)).mp member)
  · exact fun member => unbroken.2 ((Utf8.mem_encode_ascii (by decide)).mp member)

theorem Unbroken.append {left right : String} (first : Unbroken left)
    (second : Unbroken right) : Unbroken (left ++ right) := by
  constructor
  · rw [String.toList_append, List.mem_append, not_or]
    exact ⟨first.1, second.1⟩
  · rw [String.toList_append, List.mem_append, not_or]
    exact ⟨first.2, second.2⟩

theorem digit_range {char : Char} (digit : char.isDigit = true) :
    48 ≤ char.toNat ∧ char.toNat ≤ 57 := by
  rw [Char.isDigit, Bool.and_eq_true, decide_eq_true_eq, decide_eq_true_eq,
    ge_iff_le, UInt32.le_iff_toNat_le, UInt32.le_iff_toNat_le] at digit
  exact digit

theorem unbroken_toString (value : Nat) : Unbroken (toString value) := by
  have digit : ∀ char ∈ (toString value).toList, char.isDigit = true := by
    intro char member
    rw [Nat.toString_eq_ofList_toDigits, String.toList_ofList] at member
    exact Nat.isDigit_of_mem_toDigits (by decide) (by decide) member
  constructor
  · intro member
    cases digit _ member
  · intro member
    cases digit _ member

def entry (pair : String × String) : List UInt8 × List UInt8 :=
  (Utf8.encode pair.1, Utf8.encode pair.2)

theorem message_render (method target : List UInt8)
    (fields : List (String × String)) (body : List UInt8) :
    message (method ++ space :: target) fields ++ body =
      render (requestLine method target ::
        (fields.map entry).map fun entry => field entry.1 entry.2) body := by
  have version : Utf8.encode " HTTP/1.1\r\n" =
      space :: Utf8.encode "HTTP/1.1" ++ crlf := rfl
  have lineEnd : Utf8.encode "\r\n" = crlf := rfl
  have gap : Utf8.encode ": " = [colon, space] := rfl
  have lines : fields.flatMap (fun entry =>
      Utf8.encode (entry.1 ++ ": " ++ entry.2 ++ "\r\n")) =
        ((fields.map entry).map fun entry => field entry.1 entry.2).flatMap
          (· ++ crlf) := by
    rw [List.map_map, List.flatMap_map]
    congr 1
    funext pair
    simp [field, entry, gap, lineEnd]
  rw [message, version, lineEnd, lines, render_lines]
  simp [requestLine]

/-- What a server reads of the head of a message. -/
theorem readHead_message {method target : List UInt8}
    {fields : List (String × String)} {length : Nat}
    (named : space ∉ method) (open' : space ∉ target)
    (start : Plain (requestLine method target))
    (names : ∀ pair ∈ fields, Naming pair.1)
    (values : ∀ pair ∈ fields, Unbroken pair.2)
    (told : bodyLength (fields.map fun pair =>
      (Utf8.encode pair.1, trim (Utf8.encode pair.2))) = some length)
    (after : List UInt8) :
    readHead (message (method ++ space :: target) fields ++ after) =
      some ({
        method, target
        fields := fields.map fun pair =>
          (Utf8.encode pair.1, trim (Utf8.encode pair.2))
        body := []
      }, length, after) := by
  rw [message_render, readHead_render named open']
  · rw [List.map_map]
    rfl
  · intro line member
    obtain ⟨pair, among, rfl⟩ := List.mem_map.mp member
    exact (names pair among).2
  · intro line member
    rcases List.mem_cons.mp member with rfl | member
    · exact start
    · rw [List.map_map] at member
      obtain ⟨pair, among, rfl⟩ := List.mem_map.mp member
      obtain ⟨nameLine, nameReturn⟩ := (names pair among).1.bytes
      obtain ⟨valueLine, valueReturn⟩ := (values pair among).bytes
      refine ⟨by simp [field, entry], ?_, ?_⟩
      · simp [field, entry, nameLine, valueLine]
        decide
      · simp [field, entry, nameReturn, valueReturn]
        decide
  · rw [List.map_map]
    exact told

/-! The three requests with a bearer. -/

def eventsTarget (sessionId : String) (since : Int) : List UInt8 :=
  Utf8.encode "/sessions/" ++ encodePathSegment sessionId ++
    Utf8.encode ("/events?since=" ++ toString since)

/-- A byte that may stand anywhere in a path, but that does not part it. -/
theorem encodePathSegment_dark {text : String} {byte : UInt8}
    (member : byte ∈ encodePathSegment text) :
    32 < byte.toNat ∧ byte.toNat ≠ 47 ∧ byte.toNat ≠ 63 := by
  rcases PercentCode.mem_encode member with kept | rfl | digit | digit
  · simp only [isUnreserved, Bool.or_eq_true, Bool.and_eq_true,
      decide_eq_true_eq, beq_iff_eq] at kept
    omega
  · decide
  · omega
  · omega

theorem mem_toString_int {value : Int} {char : Char}
    (member : char ∈ (toString value).toList) :
    char = '-' ∨ char.isDigit = true := by
  cases value with
  | ofNat value =>
      have text : (toString (Int.ofNat value)).toList = Nat.toDigits 10 value :=
        Nat.toList_repr
      rw [text] at member
      exact .inr (Nat.isDigit_of_mem_toDigits (by decide) (by decide) member)
  | negSucc value =>
      have shown : toString (Int.negSucc value) = "-" ++ (value + 1).repr := rfl
      rw [shown, String.toList_append, Nat.toList_repr, List.mem_append] at member
      rcases member with member | member
      · exact .inl (List.mem_singleton.mp member)
      · exact .inr (Nat.isDigit_of_mem_toDigits (by decide) (by decide) member)

theorem absent_eventsTarget (sessionId : String) (since : Int) (char : Char)
    (low : char.toNat ≤ 32) :
    UInt8.ofNat char.toNat ∉ eventsTarget sessionId since := by
  have byte : (UInt8.ofNat char.toNat).toNat = char.toNat := by
    rw [UInt8.toNat_ofNat']
    omega
  have literal (text : String) (dark : text.toList.all (32 < ·.toNat) = true) :
      char ∉ text.toList := by
    intro member
    have above := List.all_eq_true.mp dark char member
    rw [decide_eq_true_eq] at above
    omega
  rw [eventsTarget, List.mem_append, List.mem_append]
  rintro ((member | member) | member)
  · rw [Utf8.mem_encode_ascii (by omega)] at member
    exact literal "/sessions/" rfl member
  · have dark := encodePathSegment_dark member
    omega
  · rw [Utf8.mem_encode_ascii (by omega), String.toList_append,
      List.mem_append] at member
    rcases member with member | member
    · exact literal "/events?since=" rfl member
    · rcases mem_toString_int member with rfl | digit
      · revert low
        decide
      · have range := digit_range digit
        omega

theorem plain_requestLine {method target : List UInt8}
    (start : ∀ byte ∈ method, 32 < byte.toNat)
    (line : lineFeed ∉ target) (return' : carriageReturn ∉ target) :
    Plain (requestLine method target) := by
  have own (byte : UInt8) (low : byte.toNat < 32) (absent : byte ∉ target) :
      byte ∉ requestLine method target := by
    rw [requestLine, List.mem_append, List.mem_append, List.mem_cons,
      List.mem_cons]
    rintro ((member | rfl | member) | rfl | member)
    · have above := start byte member
      omega
    · revert low
      decide
    · exact absent member
    · revert low
      decide
    · have version : Utf8.encode "HTTP/1.1" = [72, 84, 84, 80, 47, 49, 46, 49] := rfl
      rw [version] at member
      simp only [List.mem_cons, List.not_mem_nil, or_false] at member
      rcases member with rfl | rfl | rfl | rfl | rfl | rfl | rfl | rfl <;>
        · revert low
          decide
  refine ⟨by simp [requestLine], own _ (by decide) line, own _ (by decide) return'⟩

/-- The fields of a request with a bearer. -/
def headed (addr bearer : String) (more : List (String × String)) :
    List (String × String) :=
  ("Host", addr) :: ("Connection", "close") ::
    ("Authorization", "Bearer " ++ bearer) :: more

/-- The same, as a server has them. -/
def received (fields : List (String × String)) : List (List UInt8 × List UInt8) :=
  fields.map fun pair => (Utf8.encode pair.1, trim (Utf8.encode pair.2))

section Lookup

variable {name : List UInt8} {key value : String}
variable {rest : List (String × String)}

theorem lookup_skip (differs : (Utf8.encode key).map lower ≠ name) :
    lookup name (received ((key, value) :: rest)) = lookup name (received rest) := by
  rw [lookup, received, List.map_cons, List.find?_cons_of_neg]
  · rfl
  · rw [decide_eq_true_eq]
    exact differs

theorem lookup_found (same : (Utf8.encode key).map lower = name) :
    lookup name (received ((key, value) :: rest)) =
      some (trim (Utf8.encode value)) := by
  rw [lookup, received, List.map_cons, List.find?_cons_of_pos]
  · rfl
  · rw [decide_eq_true_eq]
    exact same

end Lookup

theorem lookup_authorization (addr bearer : String)
    (more : List (String × String)) :
    lookup (Utf8.encode "authorization") (received (headed addr bearer more)) =
      some (trim (Utf8.encode ("Bearer " ++ bearer))) := by
  rw [headed, lookup_skip (by decide), lookup_skip (by decide),
    lookup_found (by decide)]

theorem lookup_contentLength (addr bearer : String)
    (more : List (String × String)) :
    lookup (Utf8.encode "content-length") (received (headed addr bearer more)) =
      lookup (Utf8.encode "content-length") (received more) := by
  rw [headed, lookup_skip (by decide), lookup_skip (by decide),
    lookup_skip (by decide)]

theorem bodyLength_accept (addr bearer : String) :
    bodyLength (received (headed addr bearer [("Accept", "application/json")])) =
      some 0 := by
  rw [bodyLength, lookup_contentLength, lookup_skip (by decide)]
  rfl

theorem dark_of_all {bytes : List UInt8}
    (all : (bytes.all fun byte => 32 < byte.toNat) = true) :
    ∀ byte ∈ bytes, 32 < byte.toNat := by
  intro byte member
  exact of_decide_eq_true (List.all_eq_true.mp all byte member)

theorem headed_head {method target : List UInt8} {addr bearer : String}
    {more : List (String × String)} {length : Nat} (host : Unbroken addr)
    (token : Unbroken bearer)
    (named : ∀ byte ∈ method, 32 < byte.toNat) (open' : space ∉ target)
    (line : lineFeed ∉ target) (return' : carriageReturn ∉ target)
    (names : ∀ pair ∈ more, Naming pair.1)
    (values : ∀ pair ∈ more, Unbroken pair.2)
    (told : bodyLength (received (headed addr bearer more)) = some length)
    (after : List UInt8) :
    readHead (message (method ++ space :: target) (headed addr bearer more) ++
        after) =
      some ({ method, target, fields := received (headed addr bearer more),
              body := [] }, length, after) := by
  have unspaced : space ∉ method := by
    intro member
    have above := named _ member
    revert above
    decide
  refine readHead_message unspaced open' (plain_requestLine named line return')
    ?_ ?_ told after
  · intro pair member
    simp only [headed, List.mem_cons] at member
    rcases member with rfl | rfl | rfl | member
    · exact (by decide : Naming "Host")
    · exact (by decide : Naming "Connection")
    · exact (by decide : Naming "Authorization")
    · exact names pair member
  · intro pair member
    simp only [headed, List.mem_cons] at member
    rcases member with rfl | rfl | rfl | member
    · exact host
    · exact (by decide : Unbroken "close")
    · exact (by decide : Unbroken "Bearer ").append token
    · exact values pair member

/-- A request without a body. -/
theorem bare_read {target : List UInt8} {addr bearer : String}
    (host : Unbroken addr) (token : Unbroken bearer) (open' : space ∉ target)
    (line : lineFeed ∉ target) (return' : carriageReturn ∉ target) :
    readRequest (message (Utf8.encode "GET" ++ space :: target)
        (headed addr bearer [("Accept", "application/json")])) = some {
      method := Utf8.encode "GET"
      target
      fields := received (headed addr bearer [("Accept", "application/json")])
      body := []
    } := by
  rw [← List.append_nil (message _ _)]
  refine readRequest_of_head [] [] (headed_head host token
    (dark_of_all (by decide)) open' line return' ?_ ?_
    (bodyLength_accept addr bearer) [])
  · intro pair member
    cases List.mem_singleton.mp member
    exact (by decide : Naming "Accept")
  · intro pair member
    cases List.mem_singleton.mp member
    exact (by decide : Unbroken "application/json")

theorem eventsRequest_read {addr bearer : String} (host : Unbroken addr)
    (token : Unbroken bearer) (sessionId : String) (since : Int) :
    readRequest (eventsRequest addr bearer sessionId since) = some {
      method := Utf8.encode "GET"
      target := eventsTarget sessionId since
      fields := received (headed addr bearer [("Accept", "application/json")])
      body := []
    } := by
  have text : eventsRequest addr bearer sessionId since =
      message (Utf8.encode "GET" ++ space :: eventsTarget sessionId since)
        (headed addr bearer [("Accept", "application/json")]) := by
    have start : Utf8.encode "GET /sessions/" =
        Utf8.encode "GET" ++ space :: Utf8.encode "/sessions/" :=
      rfl
    simp [eventsRequest, eventsTarget, headed, start]
  rw [text]
  apply bare_read host token
  · exact absent_eventsTarget sessionId since ' ' (by decide)
  · exact absent_eventsTarget sessionId since '\n' (by decide)
  · exact absent_eventsTarget sessionId since '\r' (by decide)

theorem statusRequest_read {addr bearer : String} (host : Unbroken addr)
    (token : Unbroken bearer) :
    readRequest (statusRequest addr (some bearer)) = some {
      method := Utf8.encode "GET"
      target := Utf8.encode "/status"
      fields := received (headed addr bearer [("Accept", "application/json")])
      body := []
    } := by
  have text : statusRequest addr (some bearer) =
      message (Utf8.encode "GET" ++ space :: Utf8.encode "/status")
        (headed addr bearer [("Accept", "application/json")]) :=
    rfl
  rw [text]
  exact bare_read host token (by decide) (by decide) (by decide)

theorem trim_toString (value : Nat) :
    trim (Utf8.encode (toString value)) = Utf8.encode (toString value) := by
  apply trim_dark
  intro byte member
  obtain ⟨char, among, first⟩ := List.mem_flatMap.mp member
  rw [Nat.toString_eq_ofList_toDigits, String.toList_ofList] at among
  have range := digit_range
    (Nat.isDigit_of_mem_toDigits (by decide) (by decide) among)
  have value' : char.val.toNat = char.toNat := rfl
  unfold String.utf8EncodeChar at first
  simp only [value'] at first
  rw [if_pos (by omega), List.mem_singleton] at first
  have same : byte.toNat = char.toNat := by
    rw [first, UInt8.toNat_ofNat']
    omega
  rw [isBlank, Bool.or_eq_false_iff, decide_eq_false_iff_not,
    decide_eq_false_iff_not]
  constructor
  · rintro rfl
    have code : space.toNat = 32 := rfl
    omega
  · rintro rfl
    have code : (9 : UInt8).toNat = 9 := rfl
    omega

theorem readDecimal_toString (value : Nat) :
    readDecimal (Utf8.encode (toString value)) = some value := by
  have all : (Nat.toDigits 10 value).all Char.isDigit = true :=
    List.all_eq_true.mpr fun char member =>
      Nat.isDigit_of_mem_toDigits (by decide) (by decide) member
  rw [readDecimal, Utf8.decode_encode, Option.map_some,
    Nat.toString_eq_ofList_toDigits, String.toList_ofList]
  split
  · rename_i missing
    cases missing
  · rename_i empty
    exact absurd (Option.some.inj empty) Nat.toDigits_ne_nil
  · rename_i digits found
    cases found
    rw [if_pos all, Nat.ofDigitChars_ten_toDigits]

/-- What the server has to read of a replay, before and after its body. -/
def replayMore (body : List UInt8) : List (String × String) :=
  [("Content-Type", "application/x-ndjson"),
    ("Content-Length", toString body.length), ("Accept", "application/json")]

theorem replayRequest_head {addr bearer : String} (host : Unbroken addr)
    (token : Unbroken bearer) (body rest : List UInt8) :
    readHead (replayRequest addr bearer body ++ rest) = some ({
      method := Utf8.encode "POST"
      target := Utf8.encode "/replay"
      fields := received (headed addr bearer (replayMore body))
      body := []
    }, body.length, body ++ rest) := by
  have text : replayRequest addr bearer body ++ rest =
      message (Utf8.encode "POST" ++ space :: Utf8.encode "/replay")
        (headed addr bearer (replayMore body)) ++ (body ++ rest) := by
    rw [replayRequest, List.append_assoc]
    rfl
  rw [text]
  apply headed_head host token
  · exact dark_of_all (by decide)
  · decide
  · decide
  · decide
  · intro pair member
    simp only [replayMore, List.mem_cons, List.not_mem_nil, or_false] at member
    rcases member with rfl | rfl | rfl
    · exact (by decide : Naming "Content-Type")
    · exact (by decide : Naming "Content-Length")
    · exact (by decide : Naming "Accept")
  · intro pair member
    simp only [replayMore, List.mem_cons, List.not_mem_nil, or_false] at member
    rcases member with rfl | rfl | rfl
    · exact (by decide : Unbroken "application/x-ndjson")
    · exact unbroken_toString body.length
    · exact (by decide : Unbroken "application/json")
  · rw [bodyLength, lookup_contentLength, replayMore, lookup_skip (by decide),
      lookup_found (by decide), trim_toString]
    exact readDecimal_toString body.length

theorem replayRequest_read {addr bearer : String} (host : Unbroken addr)
    (token : Unbroken bearer) (body rest : List UInt8) :
    readRequest (replayRequest addr bearer body ++ rest) = some {
      method := Utf8.encode "POST"
      target := Utf8.encode "/replay"
      fields := received (headed addr bearer (replayMore body))
      body
    } :=
  readRequest_of_head body rest (replayRequest_head host token body rest)

/-! What is read of an answer, wherever it is cut off. -/

theorem findSubslice_eq {needle : List UInt8} (filled : needle ≠ [])
    (haystack : List UInt8) :
    findSubslice haystack needle = Substring.find needle haystack := by
  induction haystack with
  | nil =>
      have short : ([] : List UInt8).length < needle.length :=
        List.length_pos_iff.mpr filled
      rw [findSubslice, if_pos (.inr short), Substring.find, if_neg filled]
  | cons byte rest induction =>
      rw [findSubslice, Substring.find, ← induction]
      by_cases short : (byte :: rest).length < needle.length
      · have differs : ¬ needle <+: byte :: rest := fun begins =>
          absurd begins.length_le (Nat.not_le.mpr short)
        have shorter : rest.length < needle.length := by
          rw [List.length_cons] at short
          omega
        rw [if_pos (.inr short), if_neg differs, findSubslice,
          if_pos (.inr shorter)]
        rfl
      · rw [if_neg (by rintro (empty | less); exacts [filled empty, short less]),
          List.range_succ_eq_map, List.find?_cons, List.drop_zero]
        by_cases begins : needle <+: byte :: rest
        · have front : (byte :: rest).take needle.length = needle :=
            (List.prefix_iff_eq_take.mp begins).symm
          rw [if_pos begins, decide_eq_true front]
        · have front : ¬ (byte :: rest).take needle.length = needle := fun same =>
            begins (List.prefix_iff_eq_take.mpr same.symm)
          rw [if_neg begins, decide_eq_false front, List.find?_map]
          rw [List.length_cons] at short ⊢
          by_cases exact' : rest.length < needle.length
          · have size : rest.length + 1 - needle.length = 0 := by omega
            rw [size, findSubslice, if_pos (.inr exact')]
            rfl
          · have size : rest.length + 1 - needle.length =
                rest.length - needle.length + 1 := by omega
            rw [size, findSubslice,
              if_neg (by rintro (empty | less); exacts [filled empty, exact' less])]
            rfl

section Answer

variable {lines : List (List UInt8)} {body : List UInt8} {count : Nat}

/-- The body of an answer, or as much of it as has come. -/
theorem bodyAfterHeaders_take (plain : ∀ line ∈ lines, Plain line) :
    bodyAfterHeaders ((render lines body).take count) =
      body.take (count - ((head lines).length + 4)) := by
  unfold bodyAfterHeaders
  rw [findSubslice_eq (by decide), findSubslice_eq (by decide)]
  by_cases long : (head lines).length + 4 ≤ count
  · rw [take_render body long, find_blankLine plain]
    have front : (head lines ++ blankLine).length = (head lines).length + 4 := by
      simp [blankLine, crlf]
    dsimp only
    rw [render, ← List.append_assoc, ← front, List.drop_left]
  · obtain ⟨blank, bare⟩ := find_blankLine_cut plain body (Nat.not_le.mp long)
    rw [blank, bare, Nat.sub_eq_zero_of_le (by omega), List.take_zero]

theorem decimalChars_eq (value : Nat) :
    Db.decimalChars value = Nat.toDigits 10 value := by
  have digit {value : Nat} (small : value < 10) :
      Db.digitChar value = Nat.digitChar value := by
    interval_cases value <;> rfl
  induction value using Db.decimalChars.induct with
  | case1 value small =>
      rw [Db.decimalChars, if_pos small, Nat.toDigits_of_lt_base small,
        digit small]
  | case2 value large induction =>
      have split : Nat.toDigits 10 value =
          Nat.toDigits 10 (value / 10) ++ [Nat.digitChar (value % 10)] :=
        Nat.toDigits_of_base_le (by decide) (Nat.not_lt.mp large)
      rw [Db.decimalChars, if_neg large, induction, split,
        digit (Nat.mod_lt value (by decide))]

theorem parseU16_toDigits (code : Fin (2 ^ 16)) :
    Db.parseU16 (Nat.toDigits 10 code.val) = some code := by
  rw [← decimalChars_eq]
  exact Db.parseU16_decimalChars code

theorem splitWhitespace_append {front : List Char} (filled : front ≠ [])
    (dark : ∀ char ∈ front, Api.isWhitespace char = false) (rest : List Char) :
    splitWhitespace (front ++ ' ' :: rest) = front :: splitWhitespace rest := by
  have nonempty : (!front.isEmpty) = true := by
    rw [Bool.not_eq_true', List.isEmpty_eq_false_iff]
    exact filled
  rw [splitWhitespace, List.splitOnP_append_cons_of_forall_mem dark ' ' rfl,
    List.filter_cons, if_pos nonempty]
  rfl

theorem digit_dark {char : Char} (digit : char.isDigit = true) :
    Api.isWhitespace char = false := by
  obtain ⟨low, high⟩ := digit_range digit
  rw [Api.isWhitespace]
  generalize char.toNat = value at low high
  interval_cases value <;> rfl

theorem splitWhitespace_statusLine (code : Nat) (reason : String) :
    splitWhitespace (statusLine code reason ++ "\r").toList =
      "HTTP/1.1".toList :: Nat.toDigits 10 code ::
        splitWhitespace (reason.toList ++ ['\r']) := by
  have text : (statusLine code reason ++ "\r").toList =
      "HTTP/1.1".toList ++
        ' ' :: (Nat.toDigits 10 code ++ ' ' :: (reason.toList ++ ['\r'])) := by
    simp [statusLine]
  have version : ∀ char ∈ "HTTP/1.1".toList, Api.isWhitespace char = false :=
    List.all_eq_true.mp (rfl : "HTTP/1.1".toList.all (!Api.isWhitespace ·) = true)
      |> fun all char member => by simpa using all char member
  rw [text, splitWhitespace_append (by decide) version,
    splitWhitespace_append Nat.toDigits_ne_nil]
  intro char member
  exact digit_dark (Nat.isDigit_of_mem_toDigits (by decide) (by decide) member)

variable {code : Fin (2 ^ 16)} {reason : String} {fields : List (List UInt8)}

theorem unbroken_statusLine (code : Nat) (unbroken : Unbroken reason) :
    Unbroken (statusLine code reason) := by
  refine ((Unbroken.append ?_ (unbroken_toString code)).append ?_).append unbroken
  · exact ⟨by decide, by decide⟩
  · exact ⟨by decide, by decide⟩

theorem parseStatusCode_line {line : String} (unbroken : '\n' ∉ line.toList)
    (rest : List UInt8) :
    parseStatusCode ((Utf8.encode line ++ lineFeed :: rest).take count) =
      if (Utf8.encode line).length < count then
        match splitWhitespace line.toList with
        | _ :: code :: _ => Db.parseU16 code
        | _ => none
      else none := by
  have open' : lineFeed ∉ Utf8.encode line := fun member =>
    unbroken ((Utf8.mem_encode_ascii (by decide)).mp member)
  have all : ∀ byte ∈ Utf8.encode line, decide (byte ≠ lineFeed) = true := by
    intro byte member
    rw [decide_eq_true_eq]
    rintro rfl
    exact open' member
  unfold parseStatusCode
  by_cases come : (Utf8.encode line).length < count
  · obtain ⟨more, rfl⟩ := Nat.exists_eq_add_of_lt come
    rw [if_pos come, List.take_append, List.take_of_length_le (by omega),
      Nat.add_assoc, Nat.add_sub_cancel_left, List.take_succ_cons,
      if_neg (by simp), List.takeWhile_append_of_pos all,
      List.takeWhile_cons_of_neg (by simp), List.append_nil, Utf8.decode_encode]
    rfl
  · rw [if_neg come, if_pos]
    rw [List.take_append_of_le_length (Nat.not_lt.mp come)]
    exact fun member => open' (List.mem_of_mem_take member)

/-- The status is read once its line has come. -/
theorem parseStatusCode_take (unbroken : Unbroken reason) :
    parseStatusCode ((render (Utf8.encode (statusLine code.val reason) :: fields)
        body).take count) =
      if (Utf8.encode (statusLine code.val reason)).length + 1 < count
        then some code else none := by
  have text : Utf8.encode (statusLine code.val reason ++ "\r") =
      Utf8.encode (statusLine code.val reason) ++ [carriageReturn] := by
    rw [Utf8.encode_append]
    rfl
  have closed : '\n' ∉ (statusLine code.val reason ++ "\r").toList := by
    rw [String.toList_append, List.mem_append, not_or]
    exact ⟨(unbroken_statusLine code.val unbroken).1, by decide⟩
  have whole (rest : List UInt8) :
      Utf8.encode (statusLine code.val reason) ++ crlf ++ rest =
        Utf8.encode (statusLine code.val reason ++ "\r") ++ lineFeed :: rest := by
    rw [text]
    simp [crlf]
  rw [render_lines, List.append_assoc (_ ++ crlf), List.append_assoc (_ ++ crlf),
    whole, parseStatusCode_line closed, splitWhitespace_statusLine, text,
    List.length_append]
  dsimp only
  rw [parseU16_toDigits]
  rfl

theorem statusOf_take {code : Nat} (small : code < 2 ^ 16)
    (unbroken : Unbroken reason) :
    statusOf ((render (Utf8.encode (statusLine code reason) :: fields) body).take
        count) =
      if (Utf8.encode (statusLine code reason)).length + 1 < count
        then code else 0 := by
  have parsed : parseStatusCode ((render
      (Utf8.encode (statusLine (⟨code, small⟩ : Fin (2 ^ 16)).val reason) :: fields)
      body).take count) = _ := parseStatusCode_take unbroken
  unfold statusOf
  rw [parsed]
  split <;> rfl

theorem plain_statusLine {code : Nat} (unbroken : Unbroken reason) :
    Plain (Utf8.encode (statusLine code reason)) := by
  obtain ⟨line, return'⟩ := (unbroken_statusLine code unbroken).bytes
  refine ⟨?_, line, return'⟩
  rw [statusLine, Utf8.encode_append, Utf8.encode_append, Utf8.encode_append]
  intro empty
  cases empty

/-- An answer that is read as far as it has come: nothing, or its status and the
beginning of its body. -/
theorem statusOf_bodyAfterHeaders_take {code : Nat} (small : code < 2 ^ 16)
    (unbroken : Unbroken reason) (plain : ∀ line ∈ fields, Plain line)
    (count : Nat) :
    let response := (render (Utf8.encode (statusLine code reason) :: fields)
      body).take count
    statusOf response = 0 ∨
      statusOf response = code ∧ bodyAfterHeaders response <+: body := by
  intro response
  have lines : ∀ line ∈ Utf8.encode (statusLine code reason) :: fields,
      Plain line := by
    intro line member
    rcases List.mem_cons.mp member with rfl | member
    · exact plain_statusLine unbroken
    · exact plain line member
  by_cases come : (Utf8.encode (statusLine code reason)).length + 1 < count
  · right
    rw [statusOf_take small unbroken, if_pos come, bodyAfterHeaders_take lines]
    exact ⟨rfl, List.take_prefix _ _⟩
  · left
    rw [statusOf_take small unbroken, if_neg come]

theorem statusOf_bodyAfterHeaders {code : Nat} (small : code < 2 ^ 16)
    (unbroken : Unbroken reason) (plain : ∀ line ∈ fields, Plain line) :
    let response := render (Utf8.encode (statusLine code reason) :: fields) body
    statusOf response = code ∧ bodyAfterHeaders response = body := by
  intro response
  have lines : ∀ line ∈ Utf8.encode (statusLine code reason) :: fields,
      Plain line := by
    intro line member
    rcases List.mem_cons.mp member with rfl | member
    · exact plain_statusLine unbroken
    · exact plain line member
  have size : response.length =
      (head (Utf8.encode (statusLine code reason) :: fields)).length + 4 +
        body.length := by
    simp [response, render, blankLine, crlf]
    omega
  have line : (Utf8.encode (statusLine code reason)).length ≤
      (head (Utf8.encode (statusLine code reason) :: fields)).length := by
    rw [head, List.length_append]
    exact Nat.le_add_right _ _
  have whole : response.take response.length = response := List.take_length
  rw [← whole, statusOf_take small unbroken, if_pos (by omega),
    bodyAfterHeaders_take lines, size, Nat.add_sub_cancel_left, List.take_length]
  exact ⟨rfl, rfl⟩

end Answer

/-- What an answer with this status and this body is to `httpGetEvents`. -/
def eventsOutcome (code : Nat) (body : List UInt8) : EventsResponse :=
  match code with
  | 200 => .ok body
  | 404 => .notFound
  | 0 => .unreachable
  | code => .status code

theorem readEventsResponse_eq (response : List UInt8) :
    readEventsResponse response =
      eventsOutcome (statusOf response) (bodyAfterHeaders response) :=
  rfl

end Bowerbird.Commands.Http
