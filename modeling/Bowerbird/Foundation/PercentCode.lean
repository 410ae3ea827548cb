import Mathlib.Data.List.Basic
import Mathlib.Tactic.IntervalCases

namespace Bowerbird.Foundation.PercentCode

/-! Bytes that must not stand for themselves, written as a percent sign and two
hexadecimal digits. -/

def percent : UInt8 :=
  37

def hexDigit (digit : Nat) : UInt8 :=
  UInt8.ofNat (if digit < 10 then 48 + digit else 55 + digit)

def hexValue (byte : UInt8) : Option Nat :=
  let code := byte.toNat
  if 48 ≤ code ∧ code ≤ 57 then some (code - 48)
  else if 65 ≤ code ∧ code ≤ 70 then some (code - 55)
  else if 97 ≤ code ∧ code ≤ 102 then some (code - 87)
  else none

section Code

variable (keep : UInt8 → Bool)

def encodeByte (byte : UInt8) : List UInt8 :=
  if keep byte then [byte]
  else [percent, hexDigit (byte.toNat / 16), hexDigit (byte.toNat % 16)]

def encode (bytes : List UInt8) : List UInt8 :=
  bytes.flatMap (encodeByte keep)

end Code

/-- A percent sign that does not begin a code stands for itself. -/
def decode : List UInt8 → List UInt8
  | byte :: high :: low :: rest =>
      if byte = percent then
        match hexValue high, hexValue low with
        | some first, some second =>
            UInt8.ofNat (first * 16 + second) :: decode rest
        | _, _ => byte :: decode (high :: low :: rest)
      else byte :: decode (high :: low :: rest)
  | rest => rest

theorem hexValue_hexDigit {digit : Nat} (small : digit < 16) :
    hexValue (hexDigit digit) = some digit := by
  interval_cases digit <;> rfl

theorem decode_plain {byte : UInt8} (plain : byte ≠ percent) (rest : List UInt8) :
    decode (byte :: rest) = byte :: decode rest := by
  match rest with
  | [] => rfl
  | [_] => rfl
  | high :: low :: rest => rw [decode, if_neg plain]

theorem decode_encodeByte {keep : UInt8 → Bool} (marked : keep percent = false)
    (byte : UInt8) (rest : List UInt8) :
    decode (encodeByte keep byte ++ rest) = byte :: decode rest := by
  unfold encodeByte
  split
  · rename_i kept
    refine decode_plain ?_ rest
    rintro rfl
    rw [marked] at kept
    cases kept
  · have bound : byte.toNat < 256 := byte.toNat_lt
    rw [List.cons_append, List.cons_append, List.cons_append, List.nil_append,
      decode, if_pos rfl, hexValue_hexDigit (by omega),
      hexValue_hexDigit (by omega)]
    have joined : byte.toNat / 16 * 16 + byte.toNat % 16 = byte.toNat := by omega
    simp only [joined, UInt8.ofNat_toNat]

/-- What has been written with codes is read back. -/
theorem decode_encode {keep : UInt8 → Bool} (marked : keep percent = false)
    (bytes : List UInt8) : decode (encode keep bytes) = bytes := by
  induction bytes with
  | nil => rfl
  | cons byte rest induction =>
      rw [encode, List.flatMap_cons, decode_encodeByte marked]
      exact congrArg _ induction

theorem hexDigit_range {digit : Nat} (small : digit < 16) :
    48 ≤ (hexDigit digit).toNat ∧ (hexDigit digit).toNat ≤ 57 ∨
      65 ≤ (hexDigit digit).toNat ∧ (hexDigit digit).toNat ≤ 70 := by
  interval_cases digit <;> decide

/-- Nothing is written but what is kept, percent signs and digits. -/
theorem mem_encode {keep : UInt8 → Bool} {bytes : List UInt8} {byte : UInt8}
    (member : byte ∈ encode keep bytes) :
    keep byte = true ∨ byte = percent ∨
      48 ≤ byte.toNat ∧ byte.toNat ≤ 57 ∨ 65 ≤ byte.toNat ∧ byte.toNat ≤ 70 := by
  obtain ⟨source, _, member⟩ := List.mem_flatMap.mp member
  unfold encodeByte at member
  split at member
  · rw [List.mem_singleton] at member
    subst member
    exact .inl ‹_›
  · have bound : source.toNat < 256 := source.toNat_lt
    simp only [List.mem_cons, List.not_mem_nil, or_false] at member
    rcases member with rfl | rfl | rfl
    · exact .inr (.inl rfl)
    · exact .inr (.inr (hexDigit_range (by omega)))
    · exact .inr (.inr (hexDigit_range (by omega)))

theorem encode_eq_nil {keep : UInt8 → Bool} {bytes : List UInt8} :
    encode keep bytes = [] ↔ bytes = [] := by
  cases bytes with
  | nil => exact ⟨fun _ => rfl, fun _ => rfl⟩
  | cons byte rest =>
      rw [encode, List.flatMap_cons, List.append_eq_nil_iff]
      unfold encodeByte
      split <;> simp

end Bowerbird.Foundation.PercentCode
