import Mathlib.Algebra.GroupWithZero.Nat
import Mathlib.Data.List.DropRight
import Mathlib.Data.List.Infix

namespace Bowerbird.Foundation.Utf8

/-! Text as bytes.  Core Lean encodes characters; here are the few facts about
whole texts that a byte stream is cut and read by. -/

def encode (text : String) : List UInt8 :=
  text.toList.flatMap String.utf8EncodeChar

def decode (bytes : List UInt8) : Option String :=
  String.fromUTF8? bytes.toByteArray

/-- The byte that ends a line. -/
def newline : UInt8 :=
  10

/-! Bytes that need not be a text, read as one for a log line. -/

def isContinuation (byte : UInt8) : Bool :=
  0x80 ≤ byte && byte < 0xC0

/-- The first two bytes of a character of three. -/
def opensThree (byte next : UInt8) : Bool :=
  (byte == 0xE0 && 0xA0 ≤ next && next < 0xC0) ||
    (0xE1 ≤ byte && byte ≤ 0xEC && isContinuation next) ||
    (byte == 0xED && 0x80 ≤ next && next < 0xA0) ||
    (0xEE ≤ byte && byte ≤ 0xEF && isContinuation next)

/-- The first two bytes of a character of four. -/
def opensFour (byte next : UInt8) : Bool :=
  (byte == 0xF0 && 0x90 ≤ next && next < 0xC0) ||
    (0xF1 ≤ byte && byte ≤ 0xF3 && isContinuation next) ||
    (byte == 0xF4 && 0x80 ≤ next && next < 0x90)

/-- How many bytes after the first are given up with it. -/
def brokenTail (byte : UInt8) : List UInt8 → Nat
  | [] => 0
  | next :: rest =>
      if opensThree byte next then 1
      else if opensFour byte next then
        match rest with
        | [] => 1
        | third :: _ => if isContinuation third then 2 else 1
      else 0

def lossyChars : Nat → List UInt8 → List Char
  | 0, _ => []
  | _, [] => []
  | fuel + 1, byte :: rest =>
      match (byte :: rest).toByteArray.utf8DecodeChar? 0 with
      | some char => char :: lossyChars fuel (rest.drop (char.utf8Size - 1))
      | none =>
          Char.ofNat 0xFFFD :: lossyChars fuel (rest.drop (brokenTail byte rest))

/-- Each longest broken beginning of a character becomes one replacement. -/
def lossy (bytes : List UInt8) : String :=
  String.ofList (lossyChars bytes.length bytes)

theorem toByteArray_encode (text : String) :
    (encode text).toByteArray = text.toByteArray := by
  rw [← String.utf8Encode_toList]
  rfl

theorem toByteArray_injective {left right : List UInt8}
    (same : left.toByteArray = right.toByteArray) : left = right := by
  have lists := congrArg (fun bytes => bytes.data.toList) same
  simpa using lists

theorem decode_eq_some {bytes : List UInt8} {text : String} :
    decode bytes = some text ↔ bytes = encode text := by
  unfold decode String.fromUTF8?
  constructor
  · intro decoded
    split at decoded
    · cases decoded
      apply toByteArray_injective
      rw [toByteArray_encode]
      rfl
    · cases decoded
  · rintro rfl
    have same := toByteArray_encode text
    split
    · rename_i valid
      rw [Option.some.injEq, ← String.toByteArray_inj]
      exact same
    · rename_i invalid
      rw [same] at invalid
      exact absurd text.isValidUTF8 invalid

@[simp] theorem decode_encode (text : String) :
    decode (encode text) = some text :=
  decode_eq_some.mpr rfl

theorem encode_injective {left right : String}
    (same : encode left = encode right) : left = right := by
  have decoded := congrArg decode same
  simpa using decoded

@[simp] theorem encode_append (left right : String) :
    encode (left ++ right) = encode left ++ encode right := by
  simp [encode]

/-- A text whose bytes are the first bytes of another is the beginning of it. -/
theorem isPrefix_of_encode {left right : String}
    (begins : encode left <+: encode right) :
    left.toList <+: right.toList := by
  obtain ⟨rest, joined⟩ := begins
  apply List.isPrefix_of_utf8Encode_append_eq_utf8Encode rest.toByteArray
  have bytes := congrArg List.toByteArray joined
  rw [List.toByteArray_append, toByteArray_encode, toByteArray_encode] at bytes
  rw [String.utf8Encode_toList, String.utf8Encode_toList]
  exact bytes

theorem length_encode_le (text : String) :
    (encode text).length ≤ 4 * text.toList.length := by
  unfold encode
  induction text.toList with
  | nil => simp
  | cons char rest induction =>
      rw [List.flatMap_cons, List.length_append, List.length_cons,
        String.length_utf8EncodeChar]
      have small := char.utf8Size_le_four
      omega

/-- Only an ASCII character has a byte below 128, and it has no other. -/
theorem encodeChar_ascii {char : Char} {byte : UInt8}
    (member : byte ∈ String.utf8EncodeChar char) (ascii : byte.toNat < 128) :
    char.toNat = byte.toNat := by
  have value : char.val.toNat = char.toNat := rfl
  unfold String.utf8EncodeChar at member
  simp only [value] at member
  split at member
  · rw [List.mem_singleton] at member
    rw [member, UInt8.toNat_ofNat']
    omega
  · split at member
    · simp only [List.mem_cons, List.not_mem_nil, or_false] at member
      rcases member with rfl | rfl <;>
        · rw [UInt8.toNat_ofNat'] at ascii
          omega
    · split at member
      · simp only [List.mem_cons, List.not_mem_nil, or_false] at member
        rcases member with rfl | rfl | rfl <;>
          · rw [UInt8.toNat_ofNat'] at ascii
            omega
      · simp only [List.mem_cons, List.not_mem_nil, or_false] at member
        rcases member with rfl | rfl | rfl | rfl <;>
          · rw [UInt8.toNat_ofNat'] at ascii
            omega

/-- A text has the byte of an ASCII character only where it has the character. -/
theorem mem_encode_ascii {text : String} {char : Char} (ascii : char.toNat < 128) :
    UInt8.ofNat char.toNat ∈ encode text ↔ char ∈ text.toList := by
  have byte : (UInt8.ofNat char.toNat).toNat = char.toNat := by
    rw [UInt8.toNat_ofNat']
    exact Nat.mod_eq_of_lt (by omega)
  rw [encode, List.mem_flatMap]
  constructor
  · rintro ⟨other, member, at'⟩
    have same := encodeChar_ascii at' (by omega)
    rw [byte] at same
    exact Char.toNat_inj.mp same ▸ member
  · intro member
    refine ⟨char, member, ?_⟩
    unfold String.utf8EncodeChar
    have value : char.val.toNat = char.toNat := rfl
    simp only [value]
    rw [if_pos (by omega)]
    exact List.mem_singleton_self _

/-- A text has a newline byte only where it has a newline. -/
theorem newline_mem_encode {text : String} :
    newline ∈ encode text ↔ '\n' ∈ text.toList := by
  rw [encode, List.mem_flatMap]
  constructor
  · rintro ⟨char, member, byte⟩
    have same := encodeChar_ascii byte (by decide)
    have newlineChar : char = '\n' := Char.toNat_inj.mp same
    exact newlineChar ▸ member
  · intro member
    exact ⟨'\n', member, by decide⟩

/-- Reading broken bytes makes up no line ends. -/
theorem newline_of_mem_lossyChars {fuel : Nat} {bytes : List UInt8}
    (member : '\n' ∈ lossyChars fuel bytes) : newline ∈ bytes := by
  induction fuel generalizing bytes with
  | zero => cases member
  | succ fuel induction =>
      cases bytes with
      | nil => cases member
      | cons byte rest =>
          rw [lossyChars] at member
          split at member
          · rename_i char decoded
            rcases List.mem_cons.mp member with rfl | member
            · obtain ⟨after, whole⟩ :=
                ByteArray.exists_of_utf8DecodeChar?_eq_some decoded
              have bytes : byte :: rest =
                  String.utf8EncodeChar '\n' ++ after.data.toList := by
                apply toByteArray_injective
                rw [List.toByteArray_append, whole]
                congr 1
                ext1
                simp
              rw [bytes]
              exact List.mem_append_left _ (by decide)
            · exact List.mem_cons_of_mem _
                (List.mem_of_mem_drop (induction member))
          · rcases List.mem_cons.mp member with same | member
            · exact absurd same (by decide)
            · exact List.mem_cons_of_mem _
                (List.mem_of_mem_drop (induction member))

theorem newline_of_mem_lossy {bytes : List UInt8}
    (member : '\n' ∈ (lossy bytes).toList) : newline ∈ bytes := by
  rw [lossy, String.toList_ofList] at member
  exact newline_of_mem_lossyChars member

/-! A text cut to a number of bytes. -/

def size (chars : List Char) : Nat :=
  (chars.map Char.utf8Size).sum

/-- Nothing is cut where a character would be. -/
def truncate : Nat → List Char → Option (List Char)
  | 0, _ => some []
  | _ + 1, [] => some []
  | limit + 1, char :: rest =>
      if char.utf8Size ≤ limit + 1 then
        (truncate (limit + 1 - char.utf8Size) rest).map (char :: ·)
      else none

/-- The longest beginning of a text that takes no more than so many bytes. -/
structure Longest (limit : Nat) (whole front : List Char) : Prop where
  begins : front <+: whole
  fits : size front ≤ limit
  longest : ∀ other, other <+: whole → size other ≤ limit → other <+: front

@[simp] theorem size_nil : size [] = 0 :=
  rfl

@[simp] theorem size_cons (char : Char) (rest : List Char) :
    size (char :: rest) = char.utf8Size + size rest := by
  simp [size]

@[simp] theorem size_append (left right : List Char) :
    size (left ++ right) = size left + size right := by
  simp [size]

theorem utf8ByteSize_eq_size (text : String) :
    text.utf8ByteSize = size text.toList := by
  rw [← String.size_toByteArray, ← toByteArray_encode, List.size_toByteArray,
    encode, List.length_flatMap, size]
  simp only [String.length_utf8EncodeChar]

theorem eq_nil_of_size_eq_zero {chars : List Char} (empty : size chars = 0) :
    chars = [] := by
  cases chars with
  | nil => rfl
  | cons char rest =>
      have filled := char.utf8Size_pos
      rw [size_cons] at empty
      omega

theorem truncate_append (front rest : List Char) :
    truncate (size front) (front ++ rest) = some front := by
  induction front with
  | nil => rw [size_nil, truncate]
  | cons char front induction =>
      have filled := char.utf8Size_pos
      have room : char.utf8Size + size front =
          char.utf8Size + size front - 1 + 1 := by omega
      have left : char.utf8Size + size front - 1 + 1 - char.utf8Size =
          size front := by omega
      rw [size_cons, room, List.cons_append, truncate, if_pos (by omega), left,
        induction, Option.map_some]

theorem longest_whole {limit : Nat} {whole : List Char}
    (fits : size whole ≤ limit) : Longest limit whole whole where
  begins := List.prefix_refl whole
  fits := fits
  longest := fun _ begins _ => begins

/-- A beginning is the longest when the next character does not fit. -/
theorem longest_of_next {limit : Nat} {front rest : List Char} {char : Char}
    (fits : size front ≤ limit) (next : limit < size front + char.utf8Size) :
    Longest limit (front ++ char :: rest) front where
  begins := List.prefix_append front _
  fits := fits
  longest := by
    intro other begins small
    rcases List.prefix_or_prefix_of_prefix begins (List.prefix_append front _)
      with shorter | ⟨more, longer⟩
    · exact shorter
    · subst longer
      rw [List.prefix_append_right_inj] at begins
      cases more with
      | nil => simp
      | cons first others =>
          obtain ⟨same, _⟩ := List.cons_prefix_cons.mp begins
          subst same
          rw [size_append, size_cons] at small
          omega

end Bowerbird.Foundation.Utf8
