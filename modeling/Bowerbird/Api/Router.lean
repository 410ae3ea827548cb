import Bowerbird.Api.EventJson
import Bowerbird.Api.Filter
import Bowerbird.Foundation.HttpMessage

namespace Bowerbird.Api.Router

open Foundation

/-! The bearer gate, and which request is for which handler. -/

/-- What `HeaderValue::to_str` lets through. -/
def isVisibleAscii (byte : UInt8) : Bool :=
  (32 ≤ byte.toNat && byte.toNat < 127) || byte.toNat == 9

def toStr (value : List UInt8) : Option String :=
  if value.all isVisibleAscii then Utf8.decode value else none

def scheme : List Char :=
  "Bearer ".toList

def bearerOf (header : String) : Option String :=
  (scheme.isPrefixOf? header.toList).map fun rest => String.ofList (Api.trim rest)

def verify (token candidate : String) : Bool :=
  Utf8.encode token = Utf8.encode candidate

def authorization (request : Http.Request) : Option (List UInt8) :=
  Http.lookup (Utf8.encode "authorization") request.fields

def requireBearer (token : String) (request : Http.Request) : Bool :=
  match ((authorization request).bind toStr).bind bearerOf with
  | some candidate => !candidate.isEmpty && verify token candidate
  | none => false

/-- `/ws` takes a token from the query too, but only where there is no header at
all. -/
def upgradeAuthorized (token : String) (request : Http.Request)
    (queryToken : Option String) : Bool :=
  let headerToken := (((authorization request).bind toStr).bind bearerOf).filter
    (!·.isEmpty)
  let candidate :=
    if (authorization request).isSome then headerToken
    else queryToken.filter (!·.isEmpty)
  match candidate with
  | some candidate => verify token candidate
  | none => false

/-! The routes.  A parameter of a path is not empty. -/

def slash : UInt8 :=
  47

def questionMark : UInt8 :=
  63

inductive Endpoint where
  | healthz
  | readyz
  | replay
  | sessions
  | session (id : List UInt8)
  | events (id : List UInt8)
  | stats (id : List UInt8)
  | status
  | ws
  deriving Repr, DecidableEq

def pathOf (target : List UInt8) : List UInt8 :=
  target.takeWhile (· ≠ questionMark)

def queryOf (target : List UInt8) : List UInt8 :=
  (target.dropWhile (· ≠ questionMark)).drop 1

def endpoint (path : List UInt8) : Option Endpoint :=
  match path.splitOn slash with
  | [[], name] =>
      if name = Utf8.encode "healthz" then some .healthz
      else if name = Utf8.encode "readyz" then some .readyz
      else if name = Utf8.encode "replay" then some .replay
      else if name = Utf8.encode "sessions" then some .sessions
      else if name = Utf8.encode "status" then some .status
      else if name = Utf8.encode "ws" then some .ws
      else none
  | [[], name, id] =>
      if name = Utf8.encode "sessions" ∧ id ≠ [] then some (.session id)
      else none
  | [[], name, id, part] =>
      if name = Utf8.encode "sessions" ∧ id ≠ [] then
        if part = Utf8.encode "events" then some (.events id)
        else if part = Utf8.encode "stats" then some (.stats id)
        else none
      else none
  | _ => none

/-- A parameter of a path, where its bytes are a text. -/
def pathParam (segment : List UInt8) : Option String :=
  Utf8.decode (PercentCode.decode segment)

/-! Queries. -/

def formDecode (bytes : List UInt8) : String :=
  let raw := PercentCode.decode
    (bytes.map fun byte => if byte = 43 then 32 else byte)
  (Utf8.decode raw).getD (Utf8.lossy raw)

def formPairs (query : List UInt8) : List (String × String) :=
  ((query.splitOn 38).filter (!·.isEmpty)).map fun piece =>
    (formDecode (piece.takeWhile (· ≠ 61)),
      formDecode ((piece.dropWhile (· ≠ 61)).drop 1))

def parseDigits : List Char → Option Nat
  | [] => none
  | digits =>
      if digits.all Char.isDigit then some (Nat.ofDigitChars 10 digits 0)
      else none

/-- `str::parse::<i64>`: a sign or none, then decimal digits. -/
def parseI64 (chars : List Char) : Option Int :=
  let value : Option Int :=
    match chars with
    | '-' :: digits => (parseDigits digits).map fun value => -(value : Int)
    | '+' :: digits => (parseDigits digits).map Int.ofNat
    | digits => (parseDigits digits).map Int.ofNat
  value.filter EventJson.inI64

/-- `EventsParams`: one `since` or none, and nothing else. -/
def eventsParams (query : List UInt8) : Option Int :=
  match formPairs query with
  | [] => some 0
  | [(key, value)] => if key = "since" then parseI64 value.toList else none
  | _ => none

/-! Numbers are read as they are printed. -/

theorem parseDigits_toDigits (value : Nat) :
    parseDigits (Nat.toDigits 10 value) = some value := by
  have all : (Nat.toDigits 10 value).all Char.isDigit = true :=
    List.all_eq_true.mpr fun char member =>
      Nat.isDigit_of_mem_toDigits (by decide) (by decide) member
  cases digits : Nat.toDigits 10 value with
  | nil => exact absurd digits Nat.toDigits_ne_nil
  | cons char rest =>
      rw [digits] at all
      rw [parseDigits, if_pos all, ← digits, Nat.ofDigitChars_ten_toDigits]
      exact List.cons_ne_nil _ _

theorem parseI64_toString {value : Int} (small : EventJson.inI64 value = true) :
    parseI64 (toString value).toList = some value := by
  cases value with
  | ofNat value =>
      have text : (toString (Int.ofNat value)).toList = Nat.toDigits 10 value :=
        Nat.toList_repr
      have digit : ∀ char ∈ Nat.toDigits 10 value, char.isDigit = true :=
        fun char member =>
          Nat.isDigit_of_mem_toDigits (by decide) (by decide) member
      rw [text, parseI64, parseDigits_toDigits]
      · exact Option.filter_eq_some_iff.mpr ⟨rfl, small⟩
      · intro rest same
        have sign := digit '-' (by rw [same]; exact List.mem_cons_self)
        cases sign
      · intro rest same
        have sign := digit '+' (by rw [same]; exact List.mem_cons_self)
        cases sign
  | negSucc value =>
      have text : (toString (Int.negSucc value)).toList =
          '-' :: Nat.toDigits 10 (value + 1) := by
        have shown : toString (Int.negSucc value) =
            "-" ++ (value + 1).repr :=
          rfl
        rw [shown, String.toList_append, Nat.toList_repr]
        rfl
      rw [text, parseI64]
      simp only [parseDigits_toDigits]
      exact Option.filter_eq_some_iff.mpr ⟨rfl, small⟩

/-! Which headers pass the gate. -/

def isBlankChar (char : Char) : Bool :=
  char.toNat == 32 || char.toNat == 9

/-- Every character of an ASCII text that may stand in a header. -/
def Visible (text : List Char) : Prop :=
  ∀ char ∈ text, (32 ≤ char.toNat ∧ char.toNat < 127) ∨ char.toNat = 9

theorem encode_concat (front : List Char) (char : Char) :
    Utf8.encode (String.ofList (front ++ [char])) =
      Utf8.encode (String.ofList front) ++ String.utf8EncodeChar char := by
  simp [Utf8.encode]

theorem isBlank_eq (byte : UInt8) :
    Http.isBlank byte = (byte.toNat == 32 || byte.toNat == 9) := by
  have at' (value : UInt8) : decide (byte = value) = (byte.toNat == value.toNat) := by
    rw [Bool.eq_iff_iff]
    simp [← UInt8.toNat_inj]
  rw [Http.isBlank, at', at']
  rfl

/-- The bytes of a character are blank where the character is. -/
theorem isBlank_utf8EncodeChar {char : Char} {byte : UInt8}
    (member : byte ∈ String.utf8EncodeChar char) :
    Http.isBlank byte = isBlankChar char := by
  rw [isBlank_eq]
  by_cases ascii : byte.toNat < 128
  · rw [isBlankChar, Utf8.encodeChar_ascii member ascii]
  · have wide : ¬ char.toNat < 128 := by
      intro small
      have value : char.val.toNat = char.toNat := rfl
      unfold String.utf8EncodeChar at member
      simp only [value] at member
      rw [if_pos (by omega), List.mem_singleton] at member
      rw [member, UInt8.toNat_ofNat'] at ascii
      omega
    unfold isBlankChar
    rw [Bool.eq_iff_iff]
    simp only [Bool.or_eq_true, beq_iff_eq]
    omega

theorem rdropWhile_append_pos {α : Type} {p : α → Bool} (front : List α)
    {back : List α} (all : ∀ item ∈ back, p item = true) :
    (front ++ back).rdropWhile p = front.rdropWhile p := by
  rw [List.rdropWhile, List.reverse_append, List.dropWhile_append_of_pos]
  · rfl
  · intro item member
    exact all item (List.mem_reverse.mp member)

theorem rdropWhile_append_neg {α : Type} {p : α → Bool} (front : List α)
    {back : List α} (filled : back ≠ []) (none' : ∀ item ∈ back, p item = false) :
    (front ++ back).rdropWhile p = front ++ back := by
  obtain ⟨init, last, rfl⟩ := List.eq_nil_or_concat back |>.resolve_left filled
  rw [List.concat_eq_append, ← List.append_assoc, List.rdropWhile_concat_neg]
  rw [none' last (by simp)]
  exact Bool.false_ne_true

theorem rdropWhile_encode (text : List Char) :
    (Utf8.encode (String.ofList text)).rdropWhile Http.isBlank =
      Utf8.encode (String.ofList (text.rdropWhile isBlankChar)) := by
  induction text using List.reverseRecOn with
  | nil => rfl
  | append_singleton front char induction =>
      rw [encode_concat]
      cases blank : isBlankChar char with
      | true =>
          rw [List.rdropWhile_concat_pos _ _ _ blank, ← induction]
          apply rdropWhile_append_pos
          intro byte member
          rw [isBlank_utf8EncodeChar member, blank]
      | false =>
          rw [List.rdropWhile_concat_neg _ _ _ (by simp [blank]), encode_concat]
          apply rdropWhile_append_neg
          · intro empty
            have size := String.length_utf8EncodeChar char
            have some' := char.utf8Size_pos
            rw [empty] at size
            exact absurd size.symm (Nat.ne_of_gt some')
          · intro byte member
            rw [isBlank_utf8EncodeChar member, blank]

/-- A header value with blanks after it. -/
theorem trim_bearer (bearer : String) :
    Http.trim (Utf8.encode ("Bearer " ++ bearer)) =
      Utf8.encode (String.ofList ((scheme ++ bearer.toList).rdropWhile isBlankChar)) := by
  have front : (Utf8.encode ("Bearer " ++ bearer)).dropWhile Http.isBlank =
      Utf8.encode ("Bearer " ++ bearer) := by
    rw [Utf8.encode_append]
    rfl
  rw [Http.trim, front, ← rdropWhile_encode]
  congr 2
  rw [← String.toList_inj]
  simp [scheme]

theorem visible_encode {text : List Char} :
    (Utf8.encode (String.ofList text)).all isVisibleAscii = true ↔ Visible text := by
  rw [List.all_eq_true, Utf8.encode, String.toList_ofList]
  constructor
  · intro all char member
    obtain ⟨byte, first⟩ := List.exists_mem_of_ne_nil (String.utf8EncodeChar char)
      (by
        intro empty
        have size := String.length_utf8EncodeChar char
        rw [empty] at size
        exact absurd size.symm (Nat.ne_of_gt char.utf8Size_pos))
    have shown := all byte (List.mem_flatMap.mpr ⟨char, member, first⟩)
    simp only [isVisibleAscii, Bool.or_eq_true, Bool.and_eq_true,
      decide_eq_true_eq, beq_iff_eq] at shown
    rw [Utf8.encodeChar_ascii first (by omega)]
    exact shown
  · intro visible byte member
    obtain ⟨char, among, first⟩ := List.mem_flatMap.mp member
    have shown := visible char among
    have value : char.val.toNat = char.toNat := rfl
    unfold String.utf8EncodeChar at first
    simp only [value] at first
    rw [if_pos (by omega), List.mem_singleton] at first
    have same : byte.toNat = char.toNat := by
      rw [first, UInt8.toNat_ofNat']
      omega
    simp only [isVisibleAscii, Bool.or_eq_true, Bool.and_eq_true,
      decide_eq_true_eq, beq_iff_eq, same]
    exact shown

theorem isWhitespace_of_isBlankChar {char : Char} (blank : isBlankChar char = true) :
    isWhitespace char = true := by
  simp only [isBlankChar, Bool.or_eq_true, beq_iff_eq] at blank
  simp only [isWhitespace]
  rcases blank with same | same <;> rw [same] <;> rfl

theorem trim_eq (text : List Char) :
    Api.trim text = (text.dropWhile isWhitespace).rdropWhile isWhitespace :=
  rfl

theorem trim_append_blank (text : List Char) {blanks : List Char}
    (all : ∀ char ∈ blanks, isWhitespace char = true) :
    Api.trim (text ++ blanks) = Api.trim text := by
  rw [trim_eq, trim_eq, List.dropWhile_append]
  split
  · rename_i empty
    rw [List.isEmpty_iff.mp empty, List.dropWhile_eq_nil_iff.mpr all]
  · exact rdropWhile_append_pos _ all

theorem trim_rdropWhile (text : List Char) :
    Api.trim (text.rdropWhile isBlankChar) = Api.trim text := by
  have parts : text.rdropWhile isBlankChar ++ text.rtakeWhile isBlankChar = text :=
    List.rdropWhile_append_rtakeWhile
  have blanks : ∀ char ∈ text.rtakeWhile isBlankChar, isWhitespace char = true :=
    fun char member => isWhitespace_of_isBlankChar (List.mem_rtakeWhile_imp member)
  have same := trim_append_blank (text.rdropWhile isBlankChar) blanks
  rw [parts] at same
  exact same.symm

theorem trim_blank {text : List Char}
    (all : ∀ char ∈ text, isBlankChar char = true) : Api.trim text = [] := by
  have same := trim_append_blank [] fun char member =>
    isWhitespace_of_isBlankChar (all char member)
  exact same

/-- A bearer and a token that belong together: the gate trims the one, and never
the other. -/
def Admits (token bearer : String) : Prop :=
  Visible bearer.toList ∧ token ≠ "" ∧ Api.trim bearer.toList = token.toList

theorem scheme_visible : Visible scheme := by
  intro char member
  simp only [scheme, String.reduceToList, List.mem_cons, List.not_mem_nil,
    or_false] at member
  rcases member with rfl | rfl | rfl | rfl | rfl | rfl | rfl <;> decide

theorem visible_rdropWhile {text : List Char} :
    Visible (scheme ++ text.rdropWhile isBlankChar) ↔ Visible text := by
  have parts : text.rdropWhile isBlankChar ++ text.rtakeWhile isBlankChar = text :=
    List.rdropWhile_append_rtakeWhile
  constructor
  · intro visible char member
    rw [← parts, List.mem_append] at member
    rcases member with member | member
    · exact visible char (List.mem_append_right _ member)
    · have blank := List.mem_rtakeWhile_imp member
      simp only [isBlankChar, Bool.or_eq_true, beq_iff_eq] at blank
      omega
  · intro visible char member
    rcases List.mem_append.mp member with member | member
    · exact scheme_visible char member
    · exact visible char (parts ▸ List.mem_append_left _ member)

theorem requireBearer_iff {token bearer : String} {request : Http.Request}
    (header : authorization request =
      some (Http.trim (Utf8.encode ("Bearer " ++ bearer)))) :
    requireBearer token request = true ↔ Admits token bearer := by
  rw [requireBearer, header, trim_bearer, Option.bind_some]
  by_cases blank : ∀ char ∈ bearer.toList, isBlankChar char = true
  · have alone : (scheme ++ bearer.toList).rdropWhile isBlankChar =
        "Bearer".toList := by
      rw [rdropWhile_append_pos _ blank]
      rfl
    rw [alone]
    constructor
    · intro passed
      cases passed
    · rintro ⟨_, filled, same⟩
      rw [trim_blank blank] at same
      exact absurd (String.toList_inj.mp same.symm) filled
  · have kept : bearer.toList.rdropWhile isBlankChar ≠ [] := fun empty =>
      blank (List.rdropWhile_eq_nil_iff.mp empty)
    have split : (scheme ++ bearer.toList).rdropWhile isBlankChar =
        scheme ++ bearer.toList.rdropWhile isBlankChar := by
      rw [List.rdropWhile, List.reverse_append, List.dropWhile_append, if_neg,
        List.reverse_append, List.reverse_reverse]
      · rfl
      · rw [List.isEmpty_iff]
        exact fun empty => kept (List.reverse_eq_nil_iff.mpr empty)
    have stripped : scheme.isPrefixOf?
        (scheme ++ bearer.toList.rdropWhile isBlankChar) =
          some (bearer.toList.rdropWhile isBlankChar) :=
      List.isPrefixOf?_eq_some_iff_append_eq.mpr rfl
    rw [split, toStr]
    by_cases visible : Visible bearer.toList
    · rw [if_pos (visible_encode.mpr (visible_rdropWhile.mpr visible)),
        Utf8.decode_encode, Option.bind_some, bearerOf, String.toList_ofList,
        stripped, Option.map_some, trim_rdropWhile]
      simp only [verify, Bool.and_eq_true, Bool.not_eq_true',
        String.isEmpty_eq_false_iff, decide_eq_true_eq]
      constructor
      · rintro ⟨filled, same⟩
        have equal := Utf8.encode_injective same
        refine ⟨visible, equal ▸ filled, ?_⟩
        rw [equal, String.toList_ofList]
      · rintro ⟨_, filled, same⟩
        rw [same, String.ofList_toList]
        exact ⟨filled, rfl⟩
    · rw [if_neg fun shown =>
        visible (visible_rdropWhile.mp (visible_encode.mp shown))]
      constructor
      · intro passed
        cases passed
      · exact fun admits => absurd admits.1 visible

end Bowerbird.Api.Router
