import Bowerbird.Api.Filter
import Bowerbird.Broadcast.Event
import Bowerbird.Db.Schema
import Bowerbird.Projection.State
import Bowerbird.Protocol.Ws

namespace Bowerbird.Projection

open Protocol Foundation Api

/-! The burst of state frames that a subscribe starts with. -/

section Snapshot

variable (newTopic : Topic) (alreadySnapshotted : List SessionKey)
variable (nowMs : Int) (stateFilter : List SessionCurrentState)

def snapshotFrame (row : Db.ProjectionRow) : Option StateFrame :=
  if row.key ∈ alreadySnapshotted then none
  else
    match row.state.parse with
    | none => none
    | some stored =>
        if newTopic.matches (.state row.source row.sessionId stored) then
          let derivedCurrent := currentStateForRead stored nowMs
          if stateMatches stateFilter derivedCurrent then
            some {
              source := row.source
              sessionId := row.sessionId
              state := { stored with currentState := derivedCurrent } }
          else none
        else none

def snapshotForTopic (db : Db) : List StateFrame :=
  if newTopic.isStateSessionFamily then
    db.selectNonSentinelSessions.filterMap
      (snapshotFrame newTopic alreadySnapshotted nowMs stateFilter)
  else []

/-- A stored session that this burst is to show, and how it shows it. -/
structure Shows (db : Db) (key : SessionKey) (state : SessionState) : Prop where
  stored : db.stored key = some state
  user : key.isSentinel = false
  uncovered : key ∉ alreadySnapshotted
  covered : newTopic.coversStateSession key.sessionId = true
  admitted : stateMatches stateFilter (currentStateForRead state nowMs) = true

variable {newTopic alreadySnapshotted nowMs stateFilter}
variable {db : Db}

instance {key : SessionKey} {state : SessionState} : Decidable
    (Shows newTopic alreadySnapshotted nowMs stateFilter db key state) :=
  decidable_of_iff
    (db.stored key = some state ∧ key.isSentinel = false ∧
      key ∉ alreadySnapshotted ∧
      newTopic.coversStateSession key.sessionId = true ∧
      stateMatches stateFilter (currentStateForRead state nowMs) = true)
    ⟨fun ⟨stored, user, uncovered, covered, admitted⟩ =>
      ⟨stored, user, uncovered, covered, admitted⟩,
    fun ⟨stored, user, uncovered, covered, admitted⟩ =>
      ⟨stored, user, uncovered, covered, admitted⟩⟩

theorem stored_of_mem {row : Db.ProjectionRow}
    (keyed : KeyedTable.Keyed Db.ProjectionRow.key db.projections)
    (member : row ∈ db.projections) :
    db.stored row.key = row.state.parse := by
  have found : db.projection row.key = some row :=
    KeyedTable.lookup_of_mem keyed member
  simp [Db.stored, Db.selectSessionProjectionState, found]

theorem mem_of_stored {key : SessionKey} {stored : SessionState}
    (found : db.stored key = some stored) :
    ∃ row ∈ db.projections, row.key = key ∧ row.state.parse = some stored := by
  simp only [Db.stored, Db.selectSessionProjectionState,
    Option.bind_eq_some_iff, Option.map_eq_some_iff] at found
  obtain ⟨text, ⟨row, present, rfl⟩, parsed⟩ := found
  exact ⟨row, KeyedTable.lookup_mem present, KeyedTable.lookup_key present,
    parsed⟩

theorem snapshotFrame_eq_some {row : Db.ProjectionRow} {frame : StateFrame} :
    snapshotFrame newTopic alreadySnapshotted nowMs stateFilter row =
        some frame ↔
      ∃ stored, row.state.parse = some stored ∧
        row.key ∉ alreadySnapshotted ∧
        newTopic.coversStateSession row.sessionId = true ∧
        stateMatches stateFilter (currentStateForRead stored nowMs) = true ∧
        frame = {
          source := row.source
          sessionId := row.sessionId
          state := { stored with
            currentState := currentStateForRead stored nowMs } } := by
  unfold snapshotFrame
  cases parsed : row.state.parse with
  | none => simp
  | some stored =>
      simp only [Topic.matches_state, Option.some.injEq, exists_eq_left']
      constructor
      · intro shown
        split_ifs at shown with covered selected admitted
        exact ⟨covered, selected, admitted, by simpa using shown.symm⟩
      · intro shown
        obtain ⟨uncovered, covered, admitted, rfl⟩ := shown
        rw [if_neg uncovered, if_pos covered, if_pos admitted]

/-- What the burst holds: the stored state of each session that it is to show,
with the state that a reader is shown in the place of the stored one. -/
theorem mem_snapshotForTopic (wellFormed : db.WellFormed) {frame : StateFrame} :
    frame ∈ snapshotForTopic newTopic alreadySnapshotted nowMs stateFilter db ↔
      ∃ stored,
        Shows newTopic alreadySnapshotted nowMs stateFilter db frame.key
          stored ∧
        frame.state = { stored with
          currentState := currentStateForRead stored nowMs } := by
  constructor
  · intro member
    unfold snapshotForTopic at member
    split at member
    · obtain ⟨row, selected, shown⟩ := List.mem_filterMap.mp member
      obtain ⟨present, user⟩ := Db.mem_selectNonSentinelSessions.mp selected
      obtain ⟨stored, parsed, uncovered, covered, admitted, rfl⟩ :=
        snapshotFrame_eq_some.mp shown
      refine ⟨stored, ⟨?_, ?_, uncovered, covered, admitted⟩, rfl⟩
      · exact (stored_of_mem wellFormed.keyed present).trans parsed
      · exact SessionKey.isSentinel_eq_false.mpr user
    · simp at member
  · intro shown
    obtain ⟨stored, shows, shape⟩ := shown
    obtain ⟨row, present, same, parsed⟩ := mem_of_stored shows.stored
    have sameSource : row.source = frame.source := congrArg (·.source) same
    have sameSession : row.sessionId = frame.sessionId :=
      congrArg (·.sessionId) same
    rw [snapshotForTopic, if_pos (Topic.coversStateSession_family shows.covered)]
    refine List.mem_filterMap.mpr ⟨row, ?_, ?_⟩
    · refine Db.mem_selectNonSentinelSessions.mpr ⟨present, ?_⟩
      have user := shows.user
      rw [← same] at user
      exact SessionKey.isSentinel_eq_false.mp user
    · refine snapshotFrame_eq_some.mpr ⟨stored, parsed, ?_, ?_,
        shows.admitted, ?_⟩
      · rw [same]
        exact shows.uncovered
      · rw [sameSession]
        exact shows.covered
      · obtain ⟨source, sessionId, state⟩ := frame
        simp only at shape sameSource sameSession
        rw [shape, sameSource, sameSession]

/-- No burst has two frames of one session. -/
theorem snapshotForTopic_keyed
    (keyed : KeyedTable.Keyed Db.ProjectionRow.key db.projections) :
    KeyedTable.Keyed StateFrame.key
      (snapshotForTopic newTopic alreadySnapshotted nowMs stateFilter db) := by
  unfold snapshotForTopic
  split
  · refine (Db.selectNonSentinelSessions_keyed keyed).filterMap _
      fun row frame shown => ?_
    obtain ⟨_, _, _, _, _, rfl⟩ := snapshotFrame_eq_some.mp shown
    rfl
  · exact List.nodup_nil

end Snapshot

end Bowerbird.Projection
