import Bowerbird.Foundation.PercentCode
import Bowerbird.Foundation.Substring
import Bowerbird.Foundation.Utf8

namespace Bowerbird.Foundation.Http

/-! HTTP/1.1 messages as bytes: lines, an empty line, and a body. -/

def lineFeed : UInt8 :=
  10

def carriageReturn : UInt8 :=
  13

def space : UInt8 :=
  32

def colon : UInt8 :=
  58

def crlf : List UInt8 :=
  [carriageReturn, lineFeed]

def blankLine : List UInt8 :=
  crlf ++ crlf

/-- The lines with their ends, all but the last one's. -/
def head : List (List UInt8) → List UInt8
  | [] => []
  | first :: rest => first ++ rest.flatMap (crlf ++ ·)

def render (lines : List (List UInt8)) (body : List UInt8) : List UInt8 :=
  head lines ++ (blankLine ++ body)

/-- Each line with its end, and an empty one. -/
theorem render_lines (first : List UInt8) (rest : List (List UInt8))
    (body : List UInt8) :
    render (first :: rest) body =
      first ++ crlf ++ rest.flatMap (· ++ crlf) ++ crlf ++ body := by
  induction rest generalizing first with
  | nil => simp [render, head, blankLine]
  | cons second rest induction =>
      have later := induction second
      rw [render, head] at later ⊢
      simp only [List.flatMap_cons, List.append_assoc] at later ⊢
      rw [later]

def Plain (line : List UInt8) : Prop :=
  line ≠ [] ∧ lineFeed ∉ line ∧ carriageReturn ∉ line

def dropReturn (line : List UInt8) : List UInt8 :=
  if line.getLast? = some carriageReturn then line.dropLast else line

/-- The lines up to an empty one, and what comes after it. -/
def readLines (line : List UInt8) :
    List UInt8 → Option (List (List UInt8) × List UInt8)
  | [] => none
  | byte :: rest =>
      if byte = lineFeed then
        if dropReturn line = [] then some ([], rest)
        else (readLines [] rest).map fun (lines, after) =>
          (dropReturn line :: lines, after)
      else readLines (line ++ [byte]) rest

theorem readLines_append {text : List UInt8} (open' : lineFeed ∉ text)
    (line rest : List UInt8) :
    readLines line (text ++ rest) = readLines (line ++ text) rest := by
  induction text generalizing line with
  | nil => rw [List.nil_append, List.append_nil]
  | cons byte text induction =>
      rw [List.mem_cons, not_or] at open'
      rw [List.cons_append, readLines, if_neg (fun same => open'.1 same.symm),
        induction open'.2, List.append_assoc]
      rfl

theorem dropReturn_append (line : List UInt8) :
    dropReturn (line ++ [carriageReturn]) = line := by
  rw [dropReturn, List.getLast?_concat, if_pos rfl, List.dropLast_concat]

theorem readLines_line {line : List UInt8} (plain : Plain line)
    (rest : List UInt8) :
    readLines [] (line ++ (crlf ++ rest)) =
      (readLines [] rest).map fun (lines, after) => (line :: lines, after) := by
  rw [readLines_append plain.2.1, List.nil_append, crlf, List.cons_append,
    readLines, if_neg (by decide), List.cons_append, readLines, if_pos rfl,
    dropReturn_append, if_neg plain.1]
  rfl

theorem readLines_blank (rest : List UInt8) :
    readLines [] (crlf ++ rest) = some ([], rest) :=
  rfl

/-- The lines of a message are read back, and its body is what comes after. -/
theorem readLines_render {lines : List (List UInt8)}
    (plain : ∀ line ∈ lines, Plain line) (filled : lines ≠ [])
    (body : List UInt8) :
    readLines [] (render lines body) = some (lines, body) := by
  obtain ⟨first, rest, rfl⟩ := List.exists_cons_of_ne_nil filled
  induction rest generalizing first with
  | nil =>
      rw [render, head, List.flatMap_nil, List.append_nil, blankLine,
        List.append_assoc, readLines_line (plain first (by simp)),
        readLines_blank]
      rfl
  | cons second rest induction =>
      have later := induction second
        (fun line member => plain line (List.mem_cons_of_mem _ member))
        (List.cons_ne_nil _ _)
      have split : render (first :: second :: rest) body =
          first ++ (crlf ++ render (second :: rest) body) := by
        simp [render, head]
      rw [split, readLines_line (plain first (by simp)), later]
      rfl

/-! Where the body of a message begins, also of one that is cut off. -/

section Blank

variable {lines : List (List UInt8)}

theorem free_head {pattern : List UInt8}
    (alone : ∀ line, Plain line → Substring.free pattern line = true)
    (joined : ∀ line, Plain line → Substring.free pattern (crlf ++ line) = true)
    (plain : ∀ line ∈ lines, Plain line) :
    Substring.free pattern (head lines) = true := by
  cases lines with
  | nil => rfl
  | cons first rest =>
      apply Substring.free_append (alone first (plain first (by simp)))
      replace plain : ∀ line ∈ rest, Plain line :=
        fun line member => plain line (List.mem_cons_of_mem _ member)
      induction rest with
      | nil => rfl
      | cons line rest induction =>
          rw [List.flatMap_cons]
          apply Substring.free_append (joined line (plain line (by simp)))
          exact induction fun other member =>
            plain other (List.mem_cons_of_mem _ member)

theorem free_blankLine (plain : ∀ line ∈ lines, Plain line) :
    Substring.free blankLine (head lines) = true := by
  refine free_head (fun line plain => Substring.free_of_not_mem plain.2.2) ?_ plain
  rintro line ⟨filled, _, unreturned⟩
  obtain ⟨byte, rest, rfl⟩ := List.exists_cons_of_ne_nil filled
  have first : carriageReturn ≠ byte := fun same => unreturned (by simp [same])
  have alone : Substring.free blankLine (byte :: rest) = true :=
    Substring.free_of_not_mem unreturned
  have differ : lineFeed ≠ carriageReturn := by decide
  simp only [blankLine, crlf, List.cons_append, List.nil_append] at alone ⊢
  simp [Substring.free, Substring.clashes, first, differ.symm] at alone ⊢
  exact alone

/-- An empty line without carriage returns. -/
def bareBlankLine : List UInt8 :=
  [lineFeed, lineFeed]

theorem free_bareBlankLine (plain : ∀ line ∈ lines, Plain line) :
    Substring.free bareBlankLine (head lines ++ (crlf ++ [carriageReturn])) =
      true := by
  refine Substring.free_append (free_head
    (fun line plain => Substring.free_of_not_mem plain.2.1) ?_ plain) (by decide)
  rintro line ⟨filled, open', _⟩
  obtain ⟨byte, rest, rfl⟩ := List.exists_cons_of_ne_nil filled
  have first : lineFeed ≠ byte := fun same => open' (by simp [same])
  have alone : Substring.free bareBlankLine (byte :: rest) = true :=
    Substring.free_of_not_mem open'
  have differ : lineFeed ≠ carriageReturn := by decide
  simp only [bareBlankLine, crlf, List.cons_append, List.nil_append] at alone ⊢
  simp [Substring.free, Substring.clashes, first, differ] at alone ⊢
  exact alone

theorem find_blankLine (plain : ∀ line ∈ lines, Plain line) (body : List UInt8) :
    Substring.find blankLine (render lines body) = some (head lines).length :=
  Substring.find_after (free_blankLine plain) body

/-- A message that is cut off before its body shows no empty line. -/
theorem find_blankLine_cut (plain : ∀ line ∈ lines, Plain line)
    (body : List UInt8) {count : Nat} (short : count < (head lines).length + 4) :
    Substring.find blankLine ((render lines body).take count) = none ∧
      Substring.find bareBlankLine ((render lines body).take count) = none := by
  constructor
  · cases found : Substring.find blankLine ((render lines body).take count) with
    | none => rfl
    | some index =>
        obtain ⟨room, there⟩ := Substring.find_take found
        rw [find_blankLine plain] at there
        cases there
        have size : blankLine.length = 4 := rfl
        omega
  · have cut : (render lines body).take count =
        (head lines ++ (crlf ++ [carriageReturn])).take count := by
      have whole : render lines body =
          (head lines ++ (crlf ++ [carriageReturn])) ++ lineFeed :: body := by
        simp [render, blankLine, crlf]
      have size : (head lines ++ (crlf ++ [carriageReturn])).length =
          (head lines).length + 3 := by
        simp [crlf]
      rw [whole, List.take_append_of_le_length (by omega)]
    rw [cut]
    cases found : Substring.find bareBlankLine
        ((head lines ++ (crlf ++ [carriageReturn])).take count) with
    | none => rfl
    | some index =>
        have there := (Substring.find_take found).2
        rw [Substring.find_free (by decide) (free_bareBlankLine plain)] at there
        cases there

/-- What is left of a message that is cut off within its body. -/
theorem take_render (body : List UInt8) {count : Nat}
    (long : (head lines).length + 4 ≤ count) :
    (render lines body).take count =
      render lines (body.take (count - ((head lines).length + 4))) := by
  have front : (head lines ++ blankLine).length = (head lines).length + 4 := by
    simp [blankLine, crlf]
  rw [render, render, ← List.append_assoc, ← List.append_assoc,
    List.take_append, List.take_of_length_le (by omega), front]

end Blank

/-! Header fields. -/

def isBlank (byte : UInt8) : Bool :=
  byte = space || byte = 9

def trim (value : List UInt8) : List UInt8 :=
  (value.dropWhile isBlank).rdropWhile isBlank

def field (name value : List UInt8) : List UInt8 :=
  name ++ (colon :: space :: value)

def readField (line : List UInt8) : Option (List UInt8 × List UInt8) :=
  match line.dropWhile (· ≠ colon) with
  | [] => none
  | _ :: value => some (line.takeWhile (· ≠ colon), trim value)

theorem trim_space (value : List UInt8) : trim (space :: value) = trim value :=
  rfl

theorem trim_dark {value : List UInt8}
    (dark : ∀ byte ∈ value, isBlank byte = false) : trim value = value := by
  have front : value.dropWhile isBlank = value := by
    cases value with
    | nil => rfl
    | cons byte rest =>
        exact List.dropWhile_cons_of_neg (by simp [dark byte (by simp)])
  rw [trim, front, List.rdropWhile_eq_self_iff]
  intro filled blank
  rw [dark _ (List.getLast_mem filled)] at blank
  cases blank

theorem readField_field {name : List UInt8} (plain : colon ∉ name)
    (value : List UInt8) : readField (field name value) = some (name, trim value) := by
  have all : ∀ byte ∈ name, decide (byte ≠ colon) = true := by
    intro byte member
    rw [decide_eq_true_eq]
    rintro rfl
    exact plain member
  have drops : (field name value).dropWhile (· ≠ colon) =
      colon :: space :: value := by
    rw [field, List.dropWhile_append_of_pos all]
    rfl
  have takes : (field name value).takeWhile (· ≠ colon) = name := by
    rw [field, List.takeWhile_append_of_pos all]
    exact List.append_nil name
  rw [readField, drops, takes]
  exact congrArg (fun value => some (name, value)) (trim_space value)

/-- Header names are the same in either case. -/
def lower (byte : UInt8) : UInt8 :=
  if 65 ≤ byte.toNat ∧ byte.toNat ≤ 90 then byte + 32 else byte

def lookup (name : List UInt8) (fields : List (List UInt8 × List UInt8)) :
    Option (List UInt8) :=
  (fields.find? (·.1.map lower = name)).map (·.2)

/-! Requests. -/

structure Request where
  method : List UInt8
  target : List UInt8
  fields : List (List UInt8 × List UInt8)
  body : List UInt8
  deriving Repr, DecidableEq

def readDecimal (value : List UInt8) : Option Nat :=
  match (Utf8.decode value).map String.toList with
  | none | some [] => none
  | some digits =>
      if digits.all Char.isDigit then some (Nat.ofDigitChars 10 digits 0)
      else none

/-- How many bytes the body has, where the fields tell it. -/
def bodyLength (fields : List (List UInt8 × List UInt8)) : Option Nat :=
  match lookup (Utf8.encode "content-length") fields with
  | none => some 0
  | some value => readDecimal value

/-- The head of a request, how long a body it tells of, and what has come of it. -/
def readHead (bytes : List UInt8) : Option (Request × Nat × List UInt8) := do
  let (lines, after) ← readLines [] bytes
  let start ← lines.head?
  match start.splitOn space with
  | [method, target, version] =>
      if version ≠ Utf8.encode "HTTP/1.1" then none
      else do
        let fields ← lines.tail.mapM readField
        let length ← bodyLength fields
        return ({ method, target, fields, body := [] }, length, after)
  | _ => none

def readRequest (bytes : List UInt8) : Option Request :=
  match readHead bytes with
  | none => none
  | some (request, length, after) =>
      if after.length < length then none
      else some { request with body := after.take length }

/-- Reading goes on where the bytes go on. -/
theorem readLines_more {line bytes after : List UInt8}
    {lines : List (List UInt8)}
    (read : readLines line bytes = some (lines, after)) (rest : List UInt8) :
    readLines line (bytes ++ rest) = some (lines, after ++ rest) := by
  induction bytes generalizing line lines with
  | nil => cases read
  | cons byte bytes induction =>
      rw [List.cons_append]
      unfold readLines at read ⊢
      split
      · rename_i ends
        rw [if_pos ends] at read
        split
        · rename_i empty
          rw [if_pos empty] at read
          cases read
          rfl
        · rename_i filled
          rw [if_neg filled] at read
          cases later : readLines [] bytes with
          | none => rw [later] at read; cases read
          | some pair =>
              rw [later] at read
              cases read
              rw [induction later]
              rfl
      · rename_i goesOn
        rw [if_neg goesOn] at read
        exact induction read

theorem readHead_more {bytes after : List UInt8} {request : Request} {length : Nat}
    (read : readHead bytes = some (request, length, after)) (rest : List UInt8) :
    readHead (bytes ++ rest) = some (request, length, after ++ rest) := by
  unfold readHead at read ⊢
  obtain ⟨⟨lines, left⟩, found, read⟩ := Option.bind_eq_some_iff.mp read
  rw [readLines_more found]
  obtain ⟨start, first, read⟩ := Option.bind_eq_some_iff.mp read
  simp only [Option.bind_eq_bind, Option.bind_some, first]
  split at read
  · split at read
    · cases read
    · rename_i version
      rw [if_neg version]
      obtain ⟨fields, named, read⟩ := Option.bind_eq_some_iff.mp read
      obtain ⟨length, told, read⟩ := Option.bind_eq_some_iff.mp read
      cases read
      rw [named, Option.bind_some, told]
      rfl
  · cases read

/-- Of a request that has not come whole there is the same head, or none. -/
theorem readHead_take {bytes after : List UInt8} {request : Request} {length : Nat}
    (read : readHead bytes = some (request, length, after)) (count : Nat) :
    readHead (bytes.take count) = none ∨
      ∃ come, readHead (bytes.take count) = some (request, length, come) ∧
        come ++ bytes.drop count = after := by
  cases part : readHead (bytes.take count) with
  | none => exact .inl rfl
  | some head =>
      obtain ⟨begun, told, come⟩ := head
      have whole := readHead_more part (bytes.drop count)
      rw [List.take_append_drop, read] at whole
      cases whole
      exact .inr ⟨come, rfl, rfl⟩

/-- The first line of a request. -/
def requestLine (method target : List UInt8) : List UInt8 :=
  method ++ (space :: target) ++ (space :: Utf8.encode "HTTP/1.1")

theorem splitOn_requestLine {method target : List UInt8}
    (named : space ∉ method) (open' : space ∉ target) :
    (requestLine method target).splitOn space =
      [method, target, Utf8.encode "HTTP/1.1"] := by
  have parts : requestLine method target =
      [space].intercalate [method, target, Utf8.encode "HTTP/1.1"] := by
    simp [requestLine, List.intercalate]
  rw [parts, List.splitOn_intercalate]
  · intro part member
    simp only [List.mem_cons, List.not_mem_nil, or_false] at member
    rcases member with rfl | rfl | rfl
    · exact named
    · exact open'
    · decide
  · simp

theorem mapM_readField {fields : List (List UInt8 × List UInt8)}
    (named : ∀ entry ∈ fields, colon ∉ entry.1) :
    (fields.map fun entry => field entry.1 entry.2).mapM readField =
      some (fields.map fun entry => (entry.1, trim entry.2)) := by
  induction fields with
  | nil => rfl
  | cons entry rest induction =>
      rw [List.map_cons, List.mapM_cons,
        readField_field (named entry (by simp)),
        induction fun other member => named other (List.mem_cons_of_mem _ member)]
      rfl

section Rendered

variable {method target : List UInt8} {fields : List (List UInt8 × List UInt8)}

/-- A head is read back as it was written, but for the blanks around the values of
its fields. -/
theorem readHead_render (named : space ∉ method) (open' : space ∉ target)
    (entries : ∀ entry ∈ fields, colon ∉ entry.1)
    (plain : ∀ line ∈ requestLine method target ::
      fields.map (fun entry => field entry.1 entry.2), Plain line)
    {length : Nat}
    (told : bodyLength (fields.map fun entry => (entry.1, trim entry.2)) =
      some length) (after : List UInt8) :
    readHead (render (requestLine method target ::
        fields.map fun entry => field entry.1 entry.2) after) =
      some ({
        method, target
        fields := fields.map fun entry => (entry.1, trim entry.2)
        body := []
      }, length, after) := by
  rw [readHead, readLines_render plain (List.cons_ne_nil _ _)]
  simp only [Option.bind_eq_bind, Option.bind_some, List.head?_cons,
    List.tail_cons, splitOn_requestLine named open', mapM_readField entries,
    ne_eq, not_true_eq_false, if_false, told]
  rfl

/-- What comes after the body of a request is left alone. -/
theorem readRequest_of_head {bytes : List UInt8} {request : Request}
    (body rest : List UInt8)
    (head : readHead bytes = some (request, body.length, body ++ rest)) :
    readRequest bytes = some { request with body } := by
  have room : ¬ (body ++ rest).length < body.length := by
    rw [List.length_append]
    omega
  rw [readRequest, head]
  simp only [if_neg room, List.take_left]

end Rendered

/-! Answers. -/

/-- The first line of an answer. -/
def statusLine (code : Nat) (reason : String) : String :=
  "HTTP/1.1 " ++ toString code ++ " " ++ reason

end Bowerbird.Foundation.Http
