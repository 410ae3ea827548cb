import Bowerbird.Foundation.Utf8
import Bowerbird.Ingest.Reply

namespace Bowerbird.Ws

open Foundation Ingest

/-! The reason of a close frame.  It quotes what the client sent, on one line
and in the bytes that a control frame has. -/

def wsCloseReasonLimit : Nat :=
  123

def sanitizeChars (out : String) : List Char → String
  | [] => out
  | char :: rest =>
      if char = '\n' ∨ char = '\r' then sanitizeChars (out.push ' ') rest
      else if out.utf8ByteSize + char.utf8Size > wsCloseReasonLimit then out
      else sanitizeChars (out.push char) rest

/-- `none` is the panic of a cut inside a character. -/
def sanitizeForWireWs (lead detail : String) : Option String :=
  let out := sanitizeChars lead detail.toList
  if out.utf8ByteSize > wsCloseReasonLimit then
    (Utf8.truncate wsCloseReasonLimit out.toList).map String.ofList
  else some out

/-- What stands in a reason for a character of the detail. -/
def spaced (char : Char) : Char :=
  if char = '\n' ∨ char = '\r' then ' ' else char

theorem spaced_unbroken (char : Char) :
    spaced char ≠ '\n' ∧ spaced char ≠ '\r' := by
  unfold spaced
  split
  · decide
  · rename_i plain
    rwa [not_or] at plain

theorem sanitizeChars_extends (out : String) (chars : List Char) :
    out.toList <+: (sanitizeChars out chars).toList := by
  induction chars generalizing out with
  | nil => exact List.prefix_refl _
  | cons char rest induction =>
      have pushed (next : Char) :
          out.toList <+: (sanitizeChars (out.push next) rest).toList := by
        refine List.IsPrefix.trans ?_ (induction (out.push next))
        rw [String.toList_push]
        exact List.prefix_append _ _
      unfold sanitizeChars
      split
      · exact pushed ' '
      · split
        · exact List.prefix_refl _
        · exact pushed char

/-- What is written after the longest beginning is there only when that one has
all the bytes. -/
structure Cut (whole : List Char) (out : String) where
  front : List Char
  extra : List Char
  parts : out.toList = front ++ extra
  longest : Utf8.Longest wsCloseReasonLimit whole front
  full : extra = [] ∨ Utf8.size front = wsCloseReasonLimit

theorem sanitizeChars_cut {out : String} (chars : List Char)
    (fits : out.utf8ByteSize ≤ wsCloseReasonLimit) :
    Nonempty (Cut (out.toList ++ chars.map spaced) (sanitizeChars out chars)) := by
  induction chars generalizing out with
  | nil =>
      rw [Utf8.utf8ByteSize_eq_size] at fits
      refine ⟨⟨out.toList, [], ?_, ?_, .inl rfl⟩⟩
      · rw [sanitizeChars, List.append_nil]
      · rw [List.map_nil, List.append_nil]
        exact Utf8.longest_whole fits
  | cons char rest induction =>
      have pushed {next : Char} (becomes : spaced char = next)
          (room : out.utf8ByteSize + next.utf8Size ≤ wsCloseReasonLimit) :
          Nonempty (Cut (out.toList ++ (char :: rest).map spaced)
            (sanitizeChars (out.push next) rest)) := by
        rw [List.map_cons, becomes, List.append_cons, ← String.toList_push]
        exact induction (by rwa [String.utf8ByteSize_push])
      unfold sanitizeChars
      split
      · rename_i line
        have becomes : spaced char = ' ' := if_pos line
        by_cases room : out.utf8ByteSize + (' ').utf8Size ≤ wsCloseReasonLimit
        · exact pushed becomes room
        · -- the space goes in all the same, and is cut off again at the end
          have space : (' ').utf8Size = 1 := by decide
          obtain ⟨extra, parts⟩ := sanitizeChars_extends (out.push ' ') rest
          rw [String.toList_push, List.append_assoc] at parts
          rw [Utf8.utf8ByteSize_eq_size] at fits room
          refine ⟨⟨out.toList, ' ' :: extra, parts.symm, ?_, .inr (by omega)⟩⟩
          rw [List.map_cons, becomes]
          exact Utf8.longest_of_next fits (by omega)
      · rename_i plain
        have becomes : spaced char = char := if_neg plain
        split
        · rename_i crowded
          rw [Utf8.utf8ByteSize_eq_size] at fits crowded
          refine ⟨⟨out.toList, [], (List.append_nil _).symm, ?_, .inl rfl⟩⟩
          rw [List.map_cons, becomes]
          exact Utf8.longest_of_next fits crowded
        · rename_i room
          exact pushed becomes (by omega)

/-- The cut at the end falls between two characters. -/
theorem sanitizeForWireWs_longest (lead detail : String)
    (fits : lead.utf8ByteSize ≤ wsCloseReasonLimit) :
    ∃ reason, sanitizeForWireWs lead detail = some reason ∧
      Utf8.Longest wsCloseReasonLimit
        (lead.toList ++ detail.toList.map spaced) reason.toList := by
  obtain ⟨cut⟩ := sanitizeChars_cut detail.toList fits
  have small := cut.longest.fits
  simp only [sanitizeForWireWs, Utf8.utf8ByteSize_eq_size, cut.parts]
  split
  · rename_i long
    have full : Utf8.size cut.front = wsCloseReasonLimit := by
      rcases cut.full with empty | full
      · rw [empty, List.append_nil] at long
        omega
      · exact full
    refine ⟨String.ofList cut.front, ?_, ?_⟩
    · rw [← full, Utf8.truncate_append, Option.map_some]
    · rw [String.toList_ofList]
      exact cut.longest
  · rename_i short
    have empty : cut.extra = [] := by
      rcases cut.full with empty | full
      · exact empty
      · rw [Utf8.size_append] at short
        exact Utf8.eq_nil_of_size_eq_zero (by omega)
    refine ⟨sanitizeChars lead detail.toList, rfl, ?_⟩
    rw [cut.parts, empty, List.append_nil]
    exact cut.longest

/-- Whatever the detail, the reason is on one line, goes in a close frame and
says all that goes in one. -/
theorem bad_message_reason (detail : String) :
    ∃ reason, sanitizeForWireWs "bad message: " detail = some reason ∧
      reason.utf8ByteSize ≤ wsCloseReasonLimit ∧ Unbroken reason ∧
      Utf8.Longest wsCloseReasonLimit
        ("bad message: ".toList ++ detail.toList.map spaced) reason.toList := by
  obtain ⟨reason, sanitized, longest⟩ :=
    sanitizeForWireWs_longest "bad message: " detail (by decide)
  refine ⟨reason, sanitized, ?_, ?_, longest⟩
  · rw [Utf8.utf8ByteSize_eq_size]
    exact longest.fits
  · intro char member
    rcases List.mem_append.mp (longest.begins.subset member) with lead | quoted
    · have plain : Unbroken "bad message: " := by decide
      exact plain char lead
    · obtain ⟨raw, _, rfl⟩ := List.mem_map.mp quoted
      exact spaced_unbroken raw

end Bowerbird.Ws
