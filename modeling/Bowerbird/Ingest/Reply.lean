import Bowerbird.Ingest.Handler

namespace Bowerbird.Ingest

open Protocol Foundation

/-! What the handler answers.  Every reply is one short line, whatever text its
reason quotes. -/

def Reply.status : Reply → String
  | accepted => "200"
  | unavailable => "503"
  | badRequest reason => "400 " ++ reason

theorem Reply.encode_wire (reply : Reply) :
    Utf8.encode reply.wire = Utf8.encode reply.status ++ [Utf8.newline] := by
  cases reply with
  | accepted => decide
  | unavailable => decide
  | badRequest reason =>
      have last : Utf8.encode "\n" = [Utf8.newline] := by decide
      simp only [wire, status, Utf8.encode_append, last]

/-- A text that ends no line. -/
def Unbroken (text : String) : Prop :=
  ∀ char ∈ text.toList, char ≠ '\n' ∧ char ≠ '\r'

instance (text : String) : Decidable (Unbroken text) :=
  List.decidableBAll (fun char => char ≠ '\n' ∧ char ≠ '\r') text.toList

theorem Unbroken.append {left right : String} (first : Unbroken left)
    (second : Unbroken right) : Unbroken (left ++ right) := by
  intro char member
  rw [String.toList_append, List.mem_append] at member
  rcases member with member | member
  · exact first char member
  · exact second char member

theorem sanitizeForWire_unbroken (text : String) :
    Unbroken (sanitizeForWire text) := by
  intro char member
  rw [sanitizeForWire, String.toList_ofList] at member
  obtain ⟨raw, _, rfl⟩ := List.mem_map.mp (List.mem_of_mem_take member)
  split
  · decide
  · rename_i plain
    rwa [not_or] at plain

theorem length_sanitizeForWire_le (text : String) :
    (sanitizeForWire text).toList.length ≤ 512 := by
  rw [sanitizeForWire, String.toList_ofList]
  exact List.length_take_le _ _

/-- A reason goes on one line, and is hardly longer than the text it quotes. -/
structure Wireable (reason : String) : Prop where
  unbroken : Unbroken reason
  short : reason.toList.length ≤ 550

theorem Wireable.quoting {start : String} (text : String)
    (unbroken : Unbroken start) (short : start.toList.length ≤ 38) :
    Wireable (start ++ sanitizeForWire text) where
  unbroken := unbroken.append (sanitizeForWire_unbroken text)
  short := by
    have quoted := length_sanitizeForWire_le text
    rw [String.toList_append, List.length_append]
    omega

theorem vet_wireable {serde : Serde}
    {toolReactions : Option (List (String × String))} {trimmed reason : String}
    (refused : vet serde toolReactions trimmed = .error reason) :
    Wireable reason := by
  unfold vet at refused
  split at refused
  · cases refused
    exact .quoting _ (by decide) (by decide)
  · split at refused
    · split at refused
      · cases refused
        exact ⟨by decide, by decide⟩
      · split at refused
        · cases refused
          exact .quoting _ (by decide) (by decide)
        · cases refused
          exact .quoting _ (by decide) (by decide)
        · split at refused
          · cases refused
            exact ⟨by decide, by decide⟩
          · split at refused
            · cases refused
              exact ⟨by decide, by decide⟩
            · cases refused
    · cases refused
      exact ⟨by decide, by decide⟩

theorem handle_wireable {serde : Serde}
    {toolReactions : Option (List (String × String))}
    {channel next : Channel IngestItem} {received : Received} {reason : String}
    (replied : handle serde toolReactions channel received =
      (next, some (.badRequest reason))) :
    Wireable reason := by
  unfold handle at replied
  split at replied
  · cases replied
  · rename_i judged
    cases replied
    unfold judge at judged
    split at judged
    · cases judged
    · cases judged
    · exact vet_wireable (Option.some.inj judged)
  · split at replied
    · cases replied
    · cases replied

theorem handle_status {serde : Serde}
    {toolReactions : Option (List (String × String))}
    {channel next : Channel IngestItem} {received : Received} {reply : Reply}
    (replied : handle serde toolReactions channel received =
      (next, some reply)) :
    Unbroken reply.status ∧ reply.status.toList.length ≤ 554 := by
  cases reply with
  | accepted => exact ⟨by decide, by decide⟩
  | unavailable => exact ⟨by decide, by decide⟩
  | badRequest reason =>
      obtain ⟨unbroken, short⟩ := handle_wireable replied
      constructor
      · exact Unbroken.append (by decide) unbroken
      · have code : "400 ".toList.length = 4 := by decide
        rw [Reply.status, String.toList_append, List.length_append, code]
        omega

end Bowerbird.Ingest
