import Bowerbird.Api.EventJson
import Bowerbird.Ingest.Handler

namespace Bowerbird.Api.Replay

open Protocol Foundation Ingest

/-! `POST /replay`: each line of the body is an event, sent on without its id and
time, or an entry in the list of errors.  There is no await between two lines. -/

structure ParseError where
  line : Nat
  error : String
  deriving Repr, DecidableEq

structure ReplayResponse where
  replayedCount : Nat
  parseErrors : List ParseError
  deriving Repr, DecidableEq

def ReplayResponse.empty : ReplayResponse :=
  { replayedCount := 0, parseErrors := [] }

/-- Space, tab, line feed, form feed and carriage return. -/
def isAsciiWhitespace (byte : UInt8) : Bool :=
  [9, 10, 12, 13, 32].contains byte

def trimAscii (line : List UInt8) : List UInt8 :=
  (line.dropWhile isAsciiWhitespace).rdropWhile isAsciiWhitespace

def numberSign : UInt8 :=
  35

def sendError : TrySendError → String
  | .full => "channel full (replay too fast)"
  | .closed => "ingest channel closed (daemon shutting down)"

def lines (body : List UInt8) : List (List UInt8) :=
  body.splitOn Utf8.newline

section Run

variable (serde : Serde)

def readEvent (line : List UInt8) : Option Event :=
  ((Utf8.decode line).bind serde.read).bind EventJson.ofJson

/-- What a line comes to before it is sent; nothing for a blank or a comment. -/
def judgeLine (line : List UInt8) : Option (Except String EventEnvelope) :=
  let trimmed := trimAscii line
  if trimmed.isEmpty || trimmed.head? == some numberSign then none
  else
    match readEvent serde line with
    | none => some (.error (serde.eventError line))
    | some event => some (Adapter.replayEnvelope serde.parse event)

def runLines (lineNo : Nat) (channel : Channel IngestItem)
    (response : ReplayResponse) :
    List (List UInt8) → Channel IngestItem × ReplayResponse
  | [] => (channel, response)
  | line :: rest =>
      match judgeLine serde line with
      | none => runLines (lineNo + 1) channel response rest
      | some (.error error) =>
          runLines (lineNo + 1) channel
            { response with
              parseErrors := response.parseErrors ++ [⟨lineNo, error⟩] } rest
      | some (.ok envelope) =>
          match channel.trySend { envelope, origin := .replay } with
          | .ok next =>
              runLines (lineNo + 1) next
                { response with replayedCount := response.replayedCount + 1 }
                rest
          | .error error =>
              runLines (lineNo + 1) channel
                { response with
                  parseErrors := response.parseErrors ++
                    [⟨lineNo, sendError error⟩] } rest

def run (channel : Channel IngestItem) (body : List UInt8) :
    Channel IngestItem × ReplayResponse :=
  runLines serde 1 channel .empty (lines body)

/-- The item that a line brings, should the channel take it. -/
def item? (line : List UInt8) : Option IngestItem :=
  match judgeLine serde line with
  | some (.ok envelope) => some { envelope, origin := .replay }
  | _ => none

end Run

section Forwarded

variable {serde : Serde}

/-- What a request has sent: some of the items of its lines, in order, and all of
them when it reports no error. -/
structure Forwarded (channel next : Channel IngestItem)
    (before after : ReplayResponse) (brought sent : List IngestItem) :
    Prop where
  items : next.items = channel.items ++ sent
  sublist : sent.Sublist brought
  capacity : next.capacity = channel.capacity
  closed : next.closed = channel.closed
  opened : sent ≠ [] → channel.closed = false
  count : after.replayedCount = before.replayedCount + sent.length
  whole : after.parseErrors = [] → before.parseErrors = [] ∧ sent = brought

theorem Forwarded.refused {channel next : Channel IngestItem}
    {before after : ReplayResponse} {items sent : List IngestItem}
    {error : ParseError} (skipped : List IngestItem)
    (forwarded : Forwarded channel next
      { before with parseErrors := before.parseErrors ++ [error] } after items
      sent) :
    Forwarded channel next before after (skipped ++ items) sent where
  items := forwarded.items
  sublist := forwarded.sublist.trans (List.sublist_append_right _ _)
  capacity := forwarded.capacity
  closed := forwarded.closed
  opened := forwarded.opened
  count := forwarded.count
  whole := by
    intro clean
    have before := (forwarded.whole clean).1
    simp at before

theorem Forwarded.taken {channel middle next : Channel IngestItem}
    {before after : ReplayResponse} {items sent : List IngestItem}
    {item : IngestItem} (accepted : channel.trySend item = .ok middle)
    (forwarded : Forwarded middle next
      { before with replayedCount := before.replayedCount + 1 } after items
      sent) :
    Forwarded channel next before after (item :: items) (item :: sent) := by
  obtain ⟨opened, middleOpened, capacity, appended⟩ :=
    Channel.trySend_ok accepted
  exact {
    items := by rw [forwarded.items, appended, List.append_assoc]; rfl
    sublist := forwarded.sublist.cons_cons item
    capacity := forwarded.capacity.trans capacity
    closed := by rw [forwarded.closed, middleOpened, opened]
    opened := fun _ => opened
    count := by
      rw [forwarded.count, List.length_cons]
      exact Nat.add_right_comm _ _ _
    whole := by
      intro clean
      obtain ⟨before, same⟩ := forwarded.whole clean
      exact ⟨before, by rw [same]⟩ }

theorem runLines_forwarded (lineNo : Nat) (channel : Channel IngestItem)
    (response : ReplayResponse) (lines : List (List UInt8)) :
    ∃ sent, Forwarded channel (runLines serde lineNo channel response lines).1
      response (runLines serde lineNo channel response lines).2
      (lines.filterMap (item? serde)) sent := by
  induction lines generalizing lineNo channel response with
  | nil =>
      refine ⟨[], ?_⟩
      exact {
        items := by simp [runLines]
        sublist := List.Sublist.refl _
        capacity := rfl
        closed := rfl
        opened := fun absent => absurd rfl absent
        count := rfl
        whole := fun clean => ⟨clean, rfl⟩ }
  | cons line rest induction =>
      rw [runLines, List.filterMap_cons]
      cases judged : judgeLine serde line with
      | none =>
          simp only [item?, judged]
          exact induction _ _ _
      | some verdict =>
          cases verdict with
          | error error =>
              simp only [item?, judged]
              obtain ⟨sent, forwarded⟩ := induction (lineNo + 1) channel
                { response with
                  parseErrors := response.parseErrors ++ [⟨lineNo, error⟩] }
              refine ⟨sent, ?_⟩
              exact forwarded.refused []
          | ok envelope =>
              simp only [item?, judged]
              cases accepted : channel.trySend
                  { envelope, origin := .replay } with
              | ok next =>
                  obtain ⟨sent, forwarded⟩ := induction (lineNo + 1) next
                    { response with
                      replayedCount := response.replayedCount + 1 }
                  exact ⟨_, forwarded.taken accepted⟩
              | error error =>
                  obtain ⟨sent, forwarded⟩ := induction (lineNo + 1) channel
                    { response with
                      parseErrors := response.parseErrors ++
                        [⟨lineNo, sendError error⟩] }
                  exact ⟨sent, forwarded.refused
                    [{ envelope, origin := .replay }]⟩

theorem run_forwarded (channel : Channel IngestItem) (body : List UInt8) :
    ∃ sent, Forwarded channel (run serde channel body).1 .empty
      (run serde channel body).2 ((lines body).filterMap (item? serde)) sent :=
  runLines_forwarded 1 channel .empty (lines body)

/-- With room for every line, every item of a line is sent. -/
theorem runLines_room (lineNo : Nat) (channel : Channel IngestItem)
    (response : ReplayResponse) (lines : List (List UInt8))
    (opened : channel.closed = false)
    (room : channel.items.length + lines.length ≤ channel.capacity) :
    (runLines serde lineNo channel response lines).1.items =
      channel.items ++ lines.filterMap (item? serde) := by
  induction lines generalizing lineNo channel response with
  | nil => simp [runLines]
  | cons line rest induction =>
      rw [List.length_cons] at room
      rw [runLines, List.filterMap_cons]
      cases judged : judgeLine serde line with
      | none =>
          simp only [item?, judged]
          exact induction _ _ _ opened (by omega)
      | some verdict =>
          cases verdict with
          | error error =>
              simp only [item?, judged]
              exact induction _ _ _ opened (by omega)
          | ok envelope =>
              have free : channel.items.length < channel.capacity := by omega
              obtain ⟨next, sent⟩ : ∃ next, channel.trySend
                  { envelope, origin := .replay } = .ok next :=
                Channel.trySend_room opened free
              obtain ⟨_, unclosed, capacity, items⟩ := Channel.trySend_ok sent
              simp only [item?, judged, sent]
              rw [induction _ _ _ unclosed, items, List.append_assoc]
              · rfl
              · rw [items, capacity, List.length_append, List.length_singleton]
                omega

/-- Errors are only added. -/
theorem runLines_parseErrors (lineNo : Nat) (channel : Channel IngestItem)
    (response : ReplayResponse) (lines : List (List UInt8))
    {entry : ParseError} (reported : entry ∈ response.parseErrors) :
    entry ∈ (runLines serde lineNo channel response lines).2.parseErrors := by
  induction lines generalizing lineNo channel response with
  | nil => exact reported
  | cons line rest induction =>
      rw [runLines]
      split
      · exact induction _ _ _ reported
      · exact induction _ _ _ (List.mem_append_left _ reported)
      · split
        · exact induction _ _ _ reported
        · exact induction _ _ _ (List.mem_append_left _ reported)

/-- The channel has turned no line away. -/
def ReplayResponse.Unrejected (response : ReplayResponse) : Prop :=
  ∀ entry ∈ response.parseErrors,
    entry.error ≠ sendError .full ∧ entry.error ≠ sendError .closed

instance (response : ReplayResponse) : Decidable response.Unrejected :=
  inferInstanceAs (Decidable (∀ entry ∈ response.parseErrors, _ ∧ _))

theorem runLines_unrejected (lineNo : Nat) (channel : Channel IngestItem)
    (response : ReplayResponse) (lines : List (List UInt8))
    (unrejected :
      (runLines serde lineNo channel response lines).2.Unrejected) :
    (runLines serde lineNo channel response lines).1.items =
      channel.items ++ lines.filterMap (item? serde) := by
  induction lines generalizing lineNo channel response with
  | nil => simp [runLines]
  | cons line rest induction =>
      rw [runLines] at unrejected ⊢
      rw [List.filterMap_cons]
      cases judged : judgeLine serde line with
      | none =>
          simp only [judged] at unrejected ⊢
          simp only [item?, judged]
          exact induction _ _ _ unrejected
      | some verdict =>
          cases verdict with
          | error error =>
              simp only [judged] at unrejected ⊢
              simp only [item?, judged]
              exact induction _ _ _ unrejected
          | ok envelope =>
              simp only [judged] at unrejected ⊢
              simp only [item?, judged]
              cases sent : channel.trySend { envelope, origin := .replay } with
              | ok next =>
                  simp only [sent] at unrejected ⊢
                  obtain ⟨_, _, _, items⟩ := Channel.trySend_ok sent
                  rw [induction _ _ _ unrejected, items, List.append_assoc]
                  rfl
              | error error =>
                  simp only [sent] at unrejected
                  have reported : (⟨lineNo, sendError error⟩ : ParseError) ∈
                      response.parseErrors ++
                        [⟨lineNo, sendError error⟩] :=
                    List.mem_append_right _ (List.mem_singleton_self _)
                  obtain ⟨full, closed⟩ := unrejected _
                    (runLines_parseErrors (lineNo + 1) channel _ rest reported)
                  cases error with
                  | full => exact absurd rfl full
                  | closed => exact absurd rfl closed

theorem run_unrejected (channel : Channel IngestItem) (body : List UInt8)
    (unrejected : (run serde channel body).2.Unrejected) :
    (run serde channel body).1.items =
      channel.items ++ (lines body).filterMap (item? serde) :=
  runLines_unrejected 1 channel .empty (lines body) unrejected

/-- A line that is neither blank nor a comment. -/
def isRecord (line : List UInt8) : Bool :=
  !((trimAscii line).isEmpty || (trimAscii line).head? == some numberSign)

theorem item?_eq_some_iff {line : List UInt8} {item : IngestItem} :
    item? serde line = some item ↔ isRecord line = true ∧
      ∃ event envelope, readEvent serde line = some event ∧
        Adapter.replayEnvelope serde.parse event = .ok envelope ∧
        item = { envelope, origin := .replay } := by
  unfold item? judgeLine isRecord
  by_cases skipped : ((trimAscii line).isEmpty ||
      (trimAscii line).head? == some numberSign) = true
  · simp [skipped]
  · simp only [skipped, Bool.not_false, true_and]
    cases read : readEvent serde line with
    | none => simp
    | some event =>
        cases judged : Adapter.replayEnvelope serde.parse event with
        | error error => simp [judged]
        | ok envelope => simp [judged, eq_comm]

/-! One line at a time. -/

theorem judgeLine_of_item? {line : List UInt8} {item : IngestItem}
    (brings : item? serde line = some item) :
    judgeLine serde line = some (.ok item.envelope) ∧
      item = { envelope := item.envelope, origin := .replay } := by
  unfold item? at brings
  split at brings
  · rename_i envelope judged
    cases brings
    exact ⟨judged, rfl⟩
  · cases brings

theorem runLines_sent {line : List UInt8} {item : IngestItem}
    {channel next : Channel IngestItem} (lineNo : Nat)
    (response : ReplayResponse) (rest : List (List UInt8))
    (brings : item? serde line = some item)
    (sent : channel.trySend item = .ok next) :
    runLines serde lineNo channel response (line :: rest) =
      runLines serde (lineNo + 1) next
        { response with replayedCount := response.replayedCount + 1 } rest := by
  obtain ⟨judged, same⟩ := judgeLine_of_item? brings
  rw [same] at sent
  simp only [runLines, judged, sent]

theorem runLines_rejected {line : List UInt8} {item : IngestItem}
    {channel : Channel IngestItem} {error : TrySendError} (lineNo : Nat)
    (response : ReplayResponse) (rest : List (List UInt8))
    (brings : item? serde line = some item)
    (rejected : channel.trySend item = .error error) :
    runLines serde lineNo channel response (line :: rest) =
      runLines serde (lineNo + 1) channel
        { response with
          parseErrors := response.parseErrors ++
            [⟨lineNo, sendError error⟩] } rest := by
  obtain ⟨judged, same⟩ := judgeLine_of_item? brings
  rw [same] at rejected
  simp only [runLines, judged, rejected]

theorem filterMap_records (lines : List (List UInt8)) :
    (lines.filter isRecord).filterMap (item? serde) =
      lines.filterMap (item? serde) := by
  rw [List.filterMap_filter]
  refine List.filterMap_congr fun line _ => ?_
  split
  · rfl
  · rename_i skipped
    refine Eq.symm (Option.eq_none_iff_forall_not_mem.mpr fun item brings => ?_)
    exact skipped (item?_eq_some_iff.mp brings).1

end Forwarded

end Bowerbird.Api.Replay
