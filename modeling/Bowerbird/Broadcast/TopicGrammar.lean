import Bowerbird.Broadcast.Event

namespace Bowerbird.Topic

open Protocol

/-! The grammar of topics, and what a topic selects. -/

/-- What may stand for a source or a session. -/
def Literal (text : String) : Prop :=
  text ≠ "" ∧ '.' ∉ text.toList ∧ text ≠ "*"

instance (text : String) : Decidable (Literal text) :=
  inferInstanceAs (Decidable (_ ∧ _ ∧ _))

inductive Documented : String → Prop
  | eventsAll : Documented "events.*"
  | eventsBySource {source : String} (literal : Literal source) :
      Documented ("events." ++ source ++ ".*")
  | eventsBySourceSession {source sessionId : String} (first : Literal source)
      (second : Literal sessionId) :
      Documented ("events." ++ source ++ "." ++ sessionId)
  | stateAll : Documented "state.session.*"
  | stateSession {id : String} (literal : Literal id) :
      Documented ("state.session." ++ id)
  | stateSessionCurrent {id : String} (literal : Literal id) :
      Documented ("state.session." ++ id ++ ".current_state")

def render : Topic → String
  | eventsAll => "events.*"
  | eventsBySource source => "events." ++ source ++ ".*"
  | eventsBySourceSession source sessionId =>
      "events." ++ source ++ "." ++ sessionId
  | stateAll => "state.session.*"
  | stateSession id => "state.session." ++ id
  | stateSessionCurrent id => "state.session." ++ id ++ ".current_state"

def literals : Topic → List String
  | eventsAll | stateAll => []
  | eventsBySource source => [source]
  | eventsBySourceSession source sessionId => [source, sessionId]
  | stateSession id | stateSessionCurrent id => [id]

def WellFormed (topic : Topic) : Prop :=
  ∀ text ∈ topic.literals, Literal text

instance (topic : Topic) : Decidable topic.WellFormed :=
  inferInstanceAs (Decidable (∀ text ∈ topic.literals, Literal text))

/-- A documented form is the rendering of a well-formed topic. -/
theorem documented_iff {text : String} :
    Documented text ↔ ∃ topic : Topic, topic.WellFormed ∧
      topic.render = text := by
  constructor
  · intro documented
    cases documented with
    | eventsAll => exact ⟨eventsAll, by simp [WellFormed, literals], rfl⟩
    | @eventsBySource source literal =>
        exact ⟨eventsBySource source, by simpa [WellFormed, literals], rfl⟩
    | @eventsBySourceSession source sessionId first second =>
        exact ⟨eventsBySourceSession source sessionId,
          by simpa [WellFormed, literals] using ⟨first, second⟩, rfl⟩
    | stateAll => exact ⟨stateAll, by simp [WellFormed, literals], rfl⟩
    | @stateSession id literal =>
        exact ⟨stateSession id, by simpa [WellFormed, literals], rfl⟩
    | @stateSessionCurrent id literal =>
        exact ⟨stateSessionCurrent id, by simpa [WellFormed, literals], rfl⟩
  · rintro ⟨topic, wellFormed, rfl⟩
    cases topic with
    | eventsAll => exact .eventsAll
    | eventsBySource source => exact .eventsBySource (wellFormed _ (.head _))
    | eventsBySourceSession source sessionId =>
        exact .eventsBySourceSession (wellFormed _ (.head _))
          (wellFormed _ (.tail _ (.head _)))
    | stateAll => exact .stateAll
    | stateSession id => exact .stateSession (wellFormed _ (.head _))
    | stateSessionCurrent id =>
        exact .stateSessionCurrent (wellFormed _ (.head _))

/-! Segments. -/

theorem segments_eq (chars : List Char) : segments chars = chars.splitOn '.' := by
  induction chars with
  | nil => rfl
  | cons char rest induction =>
      have filled := List.splitOn_ne_nil '.' rest
      rw [segments, induction, List.splitOn_cons_eq_if_modifyHead]
      cases parts : rest.splitOn '.' with
      | nil => exact absurd parts filled
      | cons first others =>
          by_cases dot : char = '.'
          · simp [dot]
          · simp [dot]

theorem dot_not_mem_segments (chars : List Char) :
    ∀ segment ∈ segments chars, '.' ∉ segment := by
  induction chars with
  | nil => simp [segments]
  | cons char rest induction =>
      intro segment member
      rw [segments] at member
      cases parts : segments rest with
      | nil =>
          rw [segments_eq] at parts
          exact absurd parts (List.splitOn_ne_nil '.' rest)
      | cons first others =>
          rw [parts] at member induction
          change segment ∈ if char = '.' then [] :: first :: others
            else (char :: first) :: others at member
          by_cases dot : char = '.'
          · rw [if_pos dot, List.mem_cons] at member
            rcases member with rfl | member
            · exact List.not_mem_nil
            · exact induction segment member
          · rw [if_neg dot, List.mem_cons] at member
            rcases member with rfl | member
            · have plain := induction first List.mem_cons_self
              simpa [plain] using fun same => dot same.symm
            · exact induction segment (List.mem_cons_of_mem _ member)

/-- The segments of a topic, as the grammar names them. -/
def pieces : Topic → List String
  | eventsAll => ["events", "*"]
  | eventsBySource source => ["events", source, "*"]
  | eventsBySourceSession source sessionId => ["events", source, sessionId]
  | stateAll => ["state", "session", "*"]
  | stateSession id => ["state", "session", id]
  | stateSessionCurrent id => ["state", "session", id, "current_state"]

theorem render_toList (topic : Topic) :
    topic.render.toList =
      ['.'].intercalate (topic.pieces.map String.toList) := by
  cases topic <;> simp [render, pieces, List.intercalate, List.intersperse]

def keywords : List String :=
  ["events", "state", "session", "current_state", "*"]

theorem piece_cases {topic : Topic} {piece : String}
    (member : piece ∈ topic.pieces) :
    piece ∈ keywords ∨ piece ∈ topic.literals := by
  cases topic <;>
    simp only [pieces, keywords, literals, List.mem_cons, List.not_mem_nil,
      or_false] at member ⊢ <;>
    grind

theorem pieces_plain {topic : Topic} (wellFormed : topic.WellFormed)
    {piece : String} (member : piece ∈ topic.pieces) :
    piece ≠ "" ∧ '.' ∉ piece.toList := by
  rcases piece_cases member with keyword | literal
  · have plain : ∀ word ∈ keywords, word ≠ "" ∧ '.' ∉ word.toList := by decide
    exact plain piece keyword
  · obtain ⟨filled, plain, _⟩ := wellFormed piece literal
    exact ⟨filled, plain⟩

theorem segments_render {topic : Topic} (wellFormed : topic.WellFormed) :
    segments topic.render.toList = topic.pieces.map String.toList := by
  rw [segments_eq, render_toList, List.splitOn_intercalate]
  · intro piece member
    obtain ⟨text, inside, rfl⟩ := List.mem_map.mp member
    exact (pieces_plain wellFormed inside).2
  · cases topic <;> exact List.cons_ne_nil _ _

theorem segments_ofList {topic : Topic} (wellFormed : topic.WellFormed) :
    (segments topic.render.toList).map String.ofList = topic.pieces := by
  rw [segments_render wellFormed, List.map_map]
  exact (List.map_congr_left fun text _ => String.ofList_toList).trans
    (List.map_id _)

/-! What is read is what was written. -/

/-- Neither of the first two refusals goes further than the third. -/
theorem parse_of_plain {text : String}
    (plain : (segments text.toList).any List.isEmpty = false) :
    text.toList ≠ [] ∧ text.toList.getLast? ≠ some '.' := by
  constructor
  · intro empty
    rw [empty] at plain
    cases plain
  · intro dotted
    obtain ⟨front, whole⟩ := List.getLast?_eq_some_iff.mp dotted
    have last : [] ∈ segments text.toList := by
      rw [segments_eq, whole, List.splitOn_append_cons_self]
      exact List.mem_append_right _ (List.mem_singleton_self _)
    have blank : (segments text.toList).any List.isEmpty = true :=
      List.any_eq_true.mpr ⟨[], last, rfl⟩
    rw [blank] at plain
    cases plain

theorem parse_render {topic : Topic} (wellFormed : topic.WellFormed) :
    parse topic.render = some topic := by
  have plain : (segments topic.render.toList).any List.isEmpty = false := by
    rw [List.any_eq_false, segments_render wellFormed]
    intro piece member blank
    obtain ⟨text, inside, rfl⟩ := List.mem_map.mp member
    refine (pieces_plain wellFormed inside).1 (String.toList_inj.mp ?_)
    exact List.isEmpty_iff.mp blank
  obtain ⟨filled, undotted⟩ := parse_of_plain plain
  have named {text : String} (member : text ∈ topic.literals) : text ≠ "*" :=
    (wellFormed text member).2.2
  unfold parse
  rw [if_neg filled, if_neg undotted, plain, segments_ofList wellFormed]
  cases topic with
  | eventsAll | stateAll => rfl
  | eventsBySource source =>
      simp [pieces, literalOk, named (.head _)]
  | eventsBySourceSession source sessionId =>
      simp [pieces, literalOk, named (.head _), named (.tail _ (.head _))]
  | stateSession id => simp [pieces, literalOk, named (.head _)]
  | stateSessionCurrent id => simp [pieces, literalOk, named (.head _)]

theorem literalOk_iff {text : String} : literalOk text = true ↔ text ≠ "*" := by
  simp [literalOk]

/-- What an arm of the parser has found. -/
structure Read (text : String) (topic : Topic) : Prop where
  filled : (segments text.toList).any List.isEmpty = false
  parts : (segments text.toList).map String.ofList = topic.pieces
  starless : ∀ literal ∈ topic.literals, literal ≠ "*"

theorem read_of_parse {text : String} {topic : Topic}
    (parsed : parse text = some topic) : Read text topic := by
  unfold parse at parsed
  split at parsed
  · cases parsed
  · split at parsed
    · cases parsed
    · split at parsed
      · cases parsed
      · rename_i filled
        rw [Bool.not_eq_true] at filled
        split at parsed
        · rename_i parts
          cases parsed
          exact ⟨filled, parts, by simp [literals]⟩
        · rename_i parts
          split at parsed
          · rename_i ok
            cases parsed
            refine ⟨filled, parts, ?_⟩
            simpa [literals] using literalOk_iff.mp ok
          · cases parsed
        · rename_i parts
          split at parsed
          · rename_i ok
            cases parsed
            rw [Bool.and_eq_true, literalOk_iff, literalOk_iff] at ok
            refine ⟨filled, parts, ?_⟩
            simpa [literals] using ok
          · cases parsed
        · rename_i parts
          cases parsed
          exact ⟨filled, parts, by simp [literals]⟩
        · rename_i parts
          split at parsed
          · rename_i ok
            cases parsed
            refine ⟨filled, parts, ?_⟩
            simpa [literals] using literalOk_iff.mp ok
          · cases parsed
        · rename_i parts
          split at parsed
          · rename_i ok
            cases parsed
            refine ⟨filled, parts, ?_⟩
            simpa [literals] using literalOk_iff.mp ok
          · cases parsed
        · cases parsed

theorem literals_pieces {topic : Topic} {literal : String}
    (member : literal ∈ topic.literals) : literal ∈ topic.pieces := by
  cases topic <;> simp only [literals, pieces, List.mem_cons, List.not_mem_nil,
    or_false] at member ⊢ <;> grind

theorem Read.segments {text : String} {topic : Topic} (read : Read text topic) :
    segments text.toList = topic.pieces.map String.toList := by
  rw [← read.parts, List.map_map]
  exact ((List.map_congr_left fun chars _ => String.toList_ofList).trans
    (List.map_id _)).symm

theorem Read.wellFormed {text : String} {topic : Topic}
    (read : Read text topic) : topic.WellFormed := by
  intro literal member
  have part : literal.toList ∈ Topic.segments text.toList := by
    rw [read.segments]
    exact List.mem_map_of_mem (literals_pieces member)
  refine ⟨?_, ?_, read.starless literal member⟩
  · rintro rfl
    exact List.any_eq_false.mp read.filled _ part rfl
  · exact dot_not_mem_segments text.toList _ part

theorem Read.render {text : String} {topic : Topic} (read : Read text topic) :
    topic.render = text := by
  refine String.toList_inj.mp ?_
  rw [render_toList, ← read.segments, segments_eq, List.intercalate_splitOn]

theorem parse_eq_some_iff {text : String} {topic : Topic} :
    parse text = some topic ↔ topic.WellFormed ∧ topic.render = text := by
  constructor
  · intro parsed
    exact ⟨(read_of_parse parsed).wellFormed, (read_of_parse parsed).render⟩
  · rintro ⟨wellFormed, rfl⟩
    exact parse_render wellFormed

/-! What a topic selects. -/

inductive Family where
  | events
  | state
  deriving Repr, DecidableEq

def family : Topic → Family
  | eventsAll | eventsBySource _ | eventsBySourceSession _ _ => .events
  | stateAll | stateSession _ | stateSessionCurrent _ => .state

/-- The source that a topic names. -/
def source? : Topic → Option String
  | eventsBySource source | eventsBySourceSession source _ => some source
  | eventsAll | stateAll | stateSession _ | stateSessionCurrent _ => none

/-- The session that a topic names. -/
def sessionId? : Topic → Option String
  | eventsBySourceSession _ sessionId => some sessionId
  | stateSession id | stateSessionCurrent id => some id
  | eventsAll | stateAll | eventsBySource _ => none

def familyOf : BroadcastEnvelope → Family
  | .event _ => .events
  | .state .. => .state

def keyOf : BroadcastEnvelope → SessionKey
  | .event event => ⟨event.source, event.sessionId⟩
  | .state source sessionId _ => ⟨source, sessionId⟩

/-- The envelope is of the family, and of the source and session named. -/
structure Selects (topic : Topic) (envelope : BroadcastEnvelope) : Prop where
  family : topic.family = familyOf envelope
  source : ∀ source, topic.source? = some source →
    (keyOf envelope).source = source
  session : ∀ id, topic.sessionId? = some id → (keyOf envelope).sessionId = id

theorem matches_iff (topic : Topic) (envelope : BroadcastEnvelope) :
    topic.matches envelope = true ↔ topic.Selects envelope := by
  constructor
  · intro selected
    cases topic <;> cases envelope <;>
      simp only [«matches», Bool.and_eq_true, beq_iff_eq,
        Bool.false_eq_true] at selected <;>
      constructor <;> simp [Topic.family, familyOf, keyOf, source?, sessionId?,
        selected]
  · intro selects
    have same := selects.family
    have source := selects.source
    have session := selects.session
    cases topic <;> cases envelope <;>
      simp only [Topic.family, familyOf, keyOf, source?, sessionId?,
        Option.some.injEq, reduceCtorEq, forall_eq'] at same source session <;>
      simp [«matches», source, session]

theorem isStateSessionFamily_iff (topic : Topic) :
    topic.isStateSessionFamily = true ↔
      ∃ source sessionId state,
        topic.matches (.state source sessionId state) = true := by
  constructor
  · intro family
    have covered : ∃ sessionId, topic.coversStateSession sessionId = true := by
      cases topic with
      | stateAll => exact ⟨"", rfl⟩
      | stateSession id | stateSessionCurrent id =>
          exact ⟨id, beq_self_eq_true id⟩
      | eventsAll | eventsBySource | eventsBySourceSession => cases family
    obtain ⟨sessionId, covers⟩ := covered
    have state : SessionState :=
      { currentState := .idle
        lastEventKind := .stop
        lastEventAtMs := 0
        lastPid := none
        cwd := none
        startedAt := none }
    refine ⟨"", sessionId, state, ?_⟩
    rw [matches_state]
    exact covers
  · rintro ⟨source, sessionId, state, selected⟩
    exact matches_state_family selected

/-- The parser accepts the documented forms, and rendering is its inverse; what
a topic matches is what it names, for each of the three functions that ask. -/
theorem grammar_and_coverage :
    (∀ text, (parse text).isSome = true ↔ Documented text) ∧
      (∀ text topic, parse text = some topic → topic.render = text) ∧
      (∀ topic : Topic, topic.WellFormed → parse topic.render = some topic) ∧
      (∀ (topic : Topic) envelope,
        topic.matches envelope = true ↔ topic.Selects envelope) ∧
      (∀ (topic : Topic) source sessionId state,
        topic.matches (.state source sessionId state) =
          topic.coversStateSession sessionId) ∧
      ∀ topic : Topic, topic.isStateSessionFamily = true ↔
        ∃ source sessionId state,
          topic.matches (.state source sessionId state) = true := by
  refine ⟨fun text => ?_, ?_, fun topic => parse_render, matches_iff,
    matches_state, isStateSessionFamily_iff⟩
  · rw [documented_iff, Option.isSome_iff_exists]
    constructor
    · rintro ⟨topic, parsed⟩
      exact ⟨topic, parse_eq_some_iff.mp parsed⟩
    · rintro ⟨topic, documented⟩
      exact ⟨topic, parse_eq_some_iff.mpr documented⟩
  · intro text topic parsed
    exact (parse_eq_some_iff.mp parsed).2

end Bowerbird.Topic
