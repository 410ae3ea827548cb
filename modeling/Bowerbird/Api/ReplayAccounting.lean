import Bowerbird.Api.Replay

namespace Bowerbird.Api.Replay

open Protocol Foundation Ingest

/-! The books of a replay.  Whoever else uses the channel meanwhile, each line
that is sent has one answer; the loop is run against any answers at all. -/

abbrev Answer :=
  Except TrySendError Unit

/-- The response, and the items that went in, each with the number of its line. -/
structure Replayed where
  response : ReplayResponse
  enqueued : List (Nat × IngestItem)

namespace Replayed

def empty : Replayed :=
  { response := .empty, enqueued := [] }

def report (replayed : Replayed) (error : ParseError) : Replayed :=
  { replayed with
    response := { replayed.response with
      parseErrors := replayed.response.parseErrors ++ [error] } }

def enqueue (replayed : Replayed) (lineNo : Nat) (item : IngestItem) : Replayed where
  response := { replayed.response with
    replayedCount := replayed.response.replayedCount + 1 }
  enqueued := replayed.enqueued ++ [(lineNo, item)]

end Replayed

section Answered

variable (serde : Serde)

/-- `answers 0` is the answer to the next send. -/
def runAnswered (lineNo : Nat) (answers : Nat → Answer) (replayed : Replayed) :
    List (List UInt8) → Replayed
  | [] => replayed
  | line :: rest =>
      match judgeLine serde line with
      | none => runAnswered (lineNo + 1) answers replayed rest
      | some (.error error) =>
          runAnswered (lineNo + 1) answers (replayed.report ⟨lineNo, error⟩) rest
      | some (.ok envelope) =>
          match answers 0 with
          | .ok _ =>
              runAnswered (lineNo + 1) (fun send => answers (send + 1))
                (replayed.enqueue lineNo { envelope, origin := .replay }) rest
          | .error error =>
              runAnswered (lineNo + 1) (fun send => answers (send + 1))
                (replayed.report ⟨lineNo, sendError error⟩) rest

def replay (answers : Nat → Answer) (body : List UInt8) : Replayed :=
  runAnswered serde 1 answers .empty (lines body)

/-- What becomes of the lines that are records, in order. -/
def verdicts (lineNo : Nat) (answers : Nat → Answer) :
    List (List UInt8) → List (Nat × Except String IngestItem)
  | [] => []
  | line :: rest =>
      match judgeLine serde line with
      | none => verdicts (lineNo + 1) answers rest
      | some (.error error) =>
          (lineNo, .error error) :: verdicts (lineNo + 1) answers rest
      | some (.ok envelope) =>
          match answers 0 with
          | .ok _ =>
              (lineNo, .ok { envelope, origin := .replay }) ::
                verdicts (lineNo + 1) (fun send => answers (send + 1)) rest
          | .error error =>
              (lineNo, .error (sendError error)) ::
                verdicts (lineNo + 1) (fun send => answers (send + 1)) rest

end Answered

def enqueued? : Nat × Except String IngestItem → Option (Nat × IngestItem)
  | (lineNo, .ok item) => some (lineNo, item)
  | (_, .error _) => none

def reported? : Nat × Except String IngestItem → Option ParseError
  | (_, .ok _) => none
  | (lineNo, .error error) => some ⟨lineNo, error⟩

@[simp] theorem filterMap_enqueued_ok (lineNo : Nat) (item : IngestItem)
    (rest : List (Nat × Except String IngestItem)) :
    ((lineNo, Except.ok item) :: rest).filterMap enqueued? =
      (lineNo, item) :: rest.filterMap enqueued? :=
  List.filterMap_cons_some rfl

@[simp] theorem filterMap_enqueued_error (lineNo : Nat) (error : String)
    (rest : List (Nat × Except String IngestItem)) :
    ((lineNo, Except.error error) :: rest).filterMap enqueued? =
      rest.filterMap enqueued? :=
  List.filterMap_cons_none rfl

@[simp] theorem filterMap_reported_ok (lineNo : Nat) (item : IngestItem)
    (rest : List (Nat × Except String IngestItem)) :
    ((lineNo, Except.ok item) :: rest).filterMap reported? =
      rest.filterMap reported? :=
  List.filterMap_cons_none rfl

@[simp] theorem filterMap_reported_error (lineNo : Nat) (error : String)
    (rest : List (Nat × Except String IngestItem)) :
    ((lineNo, Except.error error) :: rest).filterMap reported? =
      ⟨lineNo, error⟩ :: rest.filterMap reported? :=
  List.filterMap_cons_some rfl

/-- The lines of a body that are records, with their numbers. -/
def numbered (lineNo : Nat) (lines : List (List UInt8)) :
    List (List UInt8 × Nat) :=
  (lines.zipIdx lineNo).filter fun entry => isRecord entry.1

section Books

variable {serde : Serde}

theorem runAnswered_eq (lineNo : Nat) (answers : Nat → Answer)
    (replayed : Replayed) (lines : List (List UInt8)) :
    runAnswered serde lineNo answers replayed lines =
      { response := {
          replayedCount := replayed.response.replayedCount +
            ((verdicts serde lineNo answers lines).filterMap enqueued?).length
          parseErrors := replayed.response.parseErrors ++
            (verdicts serde lineNo answers lines).filterMap reported? }
        enqueued := replayed.enqueued ++
          (verdicts serde lineNo answers lines).filterMap enqueued? } := by
  induction lines generalizing lineNo answers replayed with
  | nil => simp [runAnswered, verdicts]
  | cons line rest induction =>
      rw [runAnswered, verdicts]
      split
      · exact induction _ _ _
      · rw [induction]
        simp [Replayed.report]
      · split
        · rw [induction]
          simp [Replayed.enqueue, Nat.add_assoc, Nat.add_comm 1]
        · rw [induction]
          simp [Replayed.report]

theorem judgeLine_eq_none_iff {line : List UInt8} :
    judgeLine serde line = none ↔ isRecord line = false := by
  unfold judgeLine isRecord
  by_cases skipped : ((trimAscii line).isEmpty ||
      (trimAscii line).head? == some numberSign) = true
  · simp [skipped]
  · cases read : readEvent serde line <;> simp [skipped]

theorem numbered_cons (lineNo : Nat) (line : List UInt8)
    (rest : List (List UInt8)) :
    numbered lineNo (line :: rest) =
      if isRecord line then (line, lineNo) :: numbered (lineNo + 1) rest
      else numbered (lineNo + 1) rest := by
  rw [numbered, List.zipIdx_cons, List.filter_cons]
  rfl

/-- There is one verdict for each record, under its number. -/
theorem verdicts_numbered (lineNo : Nat) (answers : Nat → Answer)
    (lines : List (List UInt8)) :
    (verdicts serde lineNo answers lines).map Prod.fst =
      (numbered lineNo lines).map Prod.snd := by
  induction lines generalizing lineNo answers with
  | nil => rfl
  | cons line rest induction =>
      rw [verdicts, numbered_cons]
      cases judged : judgeLine serde line with
      | none =>
          have blank := judgeLine_eq_none_iff.mp judged
          rw [if_neg (by rw [blank]; exact Bool.false_ne_true)]
          exact induction _ _
      | some verdict =>
          have record : isRecord line = true := by
            by_contra blank
            rw [Bool.not_eq_true, ← judgeLine_eq_none_iff,
              judged] at blank
            cases blank
          rw [if_pos record, List.map_cons]
          cases verdict with
          | error error => exact congrArg (lineNo :: ·) (induction _ _)
          | ok envelope =>
              dsimp only
              split <;> exact congrArg (lineNo :: ·) (induction _ _)

/-- A line that went in brought the item that went in. -/
theorem verdicts_ok {lineNo : Nat} {answers : Nat → Answer}
    {lines : List (List UInt8)} {number : Nat} {item : IngestItem}
    (taken : (number, .ok item) ∈ verdicts serde lineNo answers lines) :
    ∃ line, (line, number) ∈ numbered lineNo lines ∧
      item? serde line = some item := by
  induction lines generalizing lineNo answers with
  | nil => cases taken
  | cons line rest induction =>
      rw [numbered_cons]
      have later {answers : Nat → Answer}
          (taken : (number, .ok item) ∈
            verdicts serde (lineNo + 1) answers rest) :
          ∃ found, (found, number) ∈ (if isRecord line then
              (line, lineNo) :: numbered (lineNo + 1) rest
            else numbered (lineNo + 1) rest) ∧
              item? serde found = some item := by
        obtain ⟨found, inside, brings⟩ := induction taken
        refine ⟨found, ?_, brings⟩
        split
        · exact List.mem_cons_of_mem _ inside
        · exact inside
      rw [verdicts] at taken
      split at taken
      · exact later taken
      · rcases List.mem_cons.mp taken with same | taken
        · cases same
        · exact later taken
      · rename_i envelope judged
        split at taken
        · rcases List.mem_cons.mp taken with same | taken
          · cases same
            have brings : item? serde line =
                some { envelope, origin := .replay } := by
              simp only [item?, judged]
            refine ⟨line, ?_, brings⟩
            rw [if_pos (item?_eq_some_iff.mp brings).1]
            exact List.mem_cons_self
          · exact later taken
        · rcases List.mem_cons.mp taken with same | taken
          · cases same
          · exact later taken

/-! Where the lines of a body are. -/

/-- Lines are numbered from one. -/
def lineAt (body : List UInt8) : Nat → Option (List UInt8)
  | 0 => none
  | index + 1 => (lines body)[index]?

theorem mem_numbered_iff {body line : List UInt8} {number : Nat} :
    (line, number) ∈ numbered 1 (lines body) ↔
      lineAt body number = some line ∧ isRecord line = true := by
  rw [numbered, List.mem_filter, List.mk_mem_zipIdx_iff_le_and_getElem?_sub]
  cases number with
  | zero => simp [lineAt]
  | succ index => simp [lineAt]

theorem numbered_ascending (lineNo : Nat) (lines : List (List UInt8)) :
    ((numbered lineNo lines).map Prod.snd).Pairwise (· < ·) := by
  have inside : ((numbered lineNo lines).map Prod.snd).Sublist
      (List.range' lineNo lines.length) := by
    rw [← List.zipIdx_map_snd]
    exact List.filter_sublist.map Prod.snd
  exact List.Pairwise.sublist inside List.pairwise_lt_range'

theorem length_numbered (lineNo : Nat) (lines : List (List UInt8)) :
    (numbered lineNo lines).length = (lines.filter isRecord).length := by
  induction lines generalizing lineNo with
  | nil => rfl
  | cons line rest induction =>
      rw [numbered_cons, List.filter_cons]
      split
      · exact congrArg (· + 1) (induction _)
      · exact induction _

/-- The lines that went in and the lines reported are the records, each once. -/
theorem verdicts_perm (verdicts : List (Nat × Except String IngestItem)) :
    ((verdicts.filterMap enqueued?).map Prod.fst ++
      (verdicts.filterMap reported?).map ParseError.line).Perm
        (verdicts.map Prod.fst) := by
  induction verdicts with
  | nil => exact List.Perm.refl _
  | cons verdict rest induction =>
      obtain ⟨lineNo, error | item⟩ := verdict
      · rw [filterMap_enqueued_error, filterMap_reported_error, List.map_cons,
          List.map_cons]
        exact List.perm_middle.trans (induction.cons lineNo)
      · rw [filterMap_enqueued_ok, filterMap_reported_ok, List.map_cons,
          List.map_cons]
        exact induction.cons lineNo

theorem enqueued_sublist (verdicts : List (Nat × Except String IngestItem)) :
    ((verdicts.filterMap enqueued?).map Prod.fst).Sublist
      (verdicts.map Prod.fst) := by
  induction verdicts with
  | nil => exact List.Sublist.refl _
  | cons verdict rest induction =>
      obtain ⟨lineNo, error | item⟩ := verdict
      · rw [filterMap_enqueued_error]
        exact induction.cons lineNo
      · rw [filterMap_enqueued_ok]
        exact induction.cons_cons lineNo

theorem reported_sublist (verdicts : List (Nat × Except String IngestItem)) :
    ((verdicts.filterMap reported?).map ParseError.line).Sublist
      (verdicts.map Prod.fst) := by
  induction verdicts with
  | nil => exact List.Sublist.refl _
  | cons verdict rest induction =>
      obtain ⟨lineNo, error | item⟩ := verdict
      · rw [filterMap_reported_error]
        exact induction.cons_cons lineNo
      · rw [filterMap_reported_ok]
        exact induction.cons lineNo

/-- What a replay says of its body, and does with it. -/
structure Accounted (serde : Serde) (body : List UInt8) (replayed : Replayed) :
    Prop where
  total : replayed.response.replayedCount +
    replayed.response.parseErrors.length =
      ((lines body).filter isRecord).length
  counted : replayed.enqueued.length = replayed.response.replayedCount
  errorsAscend :
    (replayed.response.parseErrors.map ParseError.line).Pairwise (· < ·)
  linesAscend : (replayed.enqueued.map Prod.fst).Pairwise (· < ·)
  apart : ∀ number ∈ replayed.enqueued.map Prod.fst,
    number ∉ replayed.response.parseErrors.map ParseError.line
  records : ∀ number, number ∈ replayed.enqueued.map Prod.fst ∨
    number ∈ replayed.response.parseErrors.map ParseError.line ↔
      ∃ line, lineAt body number = some line ∧ isRecord line = true
  brought : ∀ number item, (number, item) ∈ replayed.enqueued →
    ∃ line, lineAt body number = some line ∧ item? serde line = some item
  origin : ∀ number item, (number, item) ∈ replayed.enqueued →
    item.origin = .replay
  typed : ∀ number item, (number, item) ∈ replayed.enqueued →
    ∀ toolReactions hookKind raw live,
      Adapter.normalize serde.parse toolReactions hookKind raw = .ok live →
      live.kind = item.envelope.kind →
      live.payload = item.envelope.payload →
        item.envelope.notificationType = live.notificationType

theorem item?_origin {line : List UInt8} {item : IngestItem}
    (brings : item? serde line = some item) : item.origin = .replay := by
  obtain ⟨_, event, envelope, _, _, rfl⟩ := item?_eq_some_iff.mp brings
  rfl

theorem item?_notificationType {line : List UInt8} {item : IngestItem}
    (brings : item? serde line = some item) :
    item.envelope.notificationType =
      Adapter.reparseNotificationType serde.parse item.envelope.kind
        item.envelope.payload := by
  obtain ⟨_, event, envelope, _, accepted, rfl⟩ := item?_eq_some_iff.mp brings
  obtain ⟨_, _, rfl⟩ := (Adapter.replayEnvelope_ok serde.parse).mp accepted
  rfl

/-- Any body, against any answers of the channel. -/
theorem replay_accounted (serde : Serde) (answers : Nat → Answer)
    (body : List UInt8) :
    Accounted serde body (replay serde answers body) := by
  have numbers : (verdicts serde 1 answers (lines body)).map Prod.fst =
      (numbered 1 (lines body)).map Prod.snd := verdicts_numbered 1 answers _
  have ascending := numbered_ascending 1 (lines body)
  rw [← numbers] at ascending
  have perm := verdicts_perm (verdicts serde 1 answers (lines body))
  have brought (number : Nat) (item : IngestItem)
      (taken : (number, item) ∈
        (verdicts serde 1 answers (lines body)).filterMap enqueued?) :
      ∃ line, lineAt body number = some line ∧ item? serde line = some item := by
    obtain ⟨⟨found, verdict⟩, member, same⟩ := List.mem_filterMap.mp taken
    cases verdict with
    | error error => cases same
    | ok item =>
        cases same
        obtain ⟨line, inside, brings⟩ := verdicts_ok member
        exact ⟨line, (mem_numbered_iff.mp inside).1, brings⟩
  rw [replay, runAnswered_eq]
  simp only [Replayed.empty, ReplayResponse.empty, Nat.zero_add, List.nil_append]
  refine {
    total := ?_
    counted := rfl
    errorsAscend := ascending.sublist (reported_sublist _)
    linesAscend := ascending.sublist (enqueued_sublist _)
    apart := ?_
    records := ?_
    brought := brought
    origin := ?_
    typed := ?_ }
  · have sizes := perm.length_eq
    rw [List.length_append, List.length_map, List.length_map, numbers,
      List.length_map, length_numbered] at sizes
    exact sizes
  · have once : (_ ++ _ : List Nat).Nodup :=
      perm.nodup_iff.mpr (ascending.imp Nat.ne_of_lt)
    intro number taken reported
    exact (List.nodup_append.mp once).2.2 number taken number reported rfl
  · intro number
    rw [← List.mem_append, perm.mem_iff, numbers, List.mem_map]
    constructor
    · rintro ⟨⟨line, _⟩, inside, rfl⟩
      exact ⟨line, mem_numbered_iff.mp inside⟩
    · rintro ⟨line, found⟩
      exact ⟨(line, number), mem_numbered_iff.mpr found, rfl⟩
  · intro number item taken
    obtain ⟨line, _, brings⟩ := brought number item taken
    exact item?_origin brings
  · intro number item taken toolReactions hookKind raw live accepted kind payload
    obtain ⟨line, _, brings⟩ := brought number item taken
    rw [item?_notificationType brings,
      Adapter.normalize_notificationType serde.parse accepted, kind, payload]

/-! The loop of `run` is this one, with the answers that its channel gives. -/

/-- What a channel has taken is what has been enqueued since. -/
structure Answers (channel next : Channel IngestItem) (response : ReplayResponse)
    (before after : Replayed) : Prop where
  response : response = after.response
  items : ∃ sent, after.enqueued = before.enqueued ++ sent ∧
    next.items = channel.items ++ sent.map Prod.snd

/-- One answer more, before the others. -/
def Answer.followed (answer : Answer) (later : Nat → Answer) : Nat → Answer
  | 0 => answer
  | send + 1 => later send

theorem runLines_answered (lineNo : Nat) (channel : Channel IngestItem)
    (replayed : Replayed) (lines : List (List UInt8)) :
    ∃ answers, Answers channel
      (runLines serde lineNo channel replayed.response lines).1
      (runLines serde lineNo channel replayed.response lines).2 replayed
      (runAnswered serde lineNo answers replayed lines) := by
  induction lines generalizing lineNo channel replayed with
  | nil =>
      refine ⟨fun _ => .ok (), rfl, [], ?_, ?_⟩
      · rw [runAnswered, List.append_nil]
      · rw [runLines, List.map_nil, List.append_nil]
  | cons line rest induction =>
      cases judged : judgeLine serde line with
      | none =>
          simp only [runLines, runAnswered, judged]
          exact induction (lineNo + 1) channel replayed
      | some verdict =>
          cases verdict with
          | error error =>
              simp only [runLines, runAnswered, judged]
              obtain ⟨answers, answered⟩ := induction (lineNo + 1) channel
                (replayed.report ⟨lineNo, error⟩)
              exact ⟨answers, answered.response, answered.items⟩
          | ok envelope =>
              cases answered : channel.trySend
                  { envelope, origin := .replay } with
              | ok next =>
                  obtain ⟨answers, response, sent, enqueued, items⟩ :=
                    induction (lineNo + 1) next (replayed.enqueue lineNo
                      { envelope, origin := .replay })
                  obtain ⟨_, _, _, appended⟩ := Channel.trySend_ok answered
                  rw [appended, List.append_assoc] at items
                  refine ⟨Answer.followed (.ok ()) answers, ?_⟩
                  simp only [runLines, runAnswered, judged, answered,
                    Answer.followed]
                  exact ⟨response, (lineNo, { envelope, origin := .replay }) :: sent,
                    enqueued.trans (List.append_assoc ..), items⟩
              | error error =>
                  obtain ⟨answers, followed⟩ := induction (lineNo + 1) channel
                    (replayed.report ⟨lineNo, sendError error⟩)
                  refine ⟨Answer.followed (.error error) answers, ?_⟩
                  simp only [runLines, runAnswered, judged, answered,
                    Answer.followed]
                  exact ⟨followed.response, followed.items⟩

/-- With nobody else at the channel, a replay answers and sends what the books
say. -/
theorem run_answered (channel : Channel IngestItem) (body : List UInt8) :
    ∃ answers,
      (run serde channel body).2 = (replay serde answers body).response ∧
      (run serde channel body).1.items = channel.items ++
        (replay serde answers body).enqueued.map Prod.snd := by
  obtain ⟨answers, response, sent, enqueued, items⟩ :=
    runLines_answered 1 channel .empty (lines body)
  refine ⟨answers, response, ?_⟩
  rw [replay, enqueued]
  exact items

end Books

end Bowerbird.Api.Replay
