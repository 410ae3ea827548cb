import Bowerbird.Api.Rest
import Bowerbird.Projection.Snapshot

namespace Bowerbird.Api.Sessions

open Protocol Foundation Projection

/-! The session list and the burst of a subscribe: two readers of one table. -/

/-- What an item and a state frame have in common. -/
def frameOf (item : SessionListItem) : StateFrame :=
  { source := item.source
    sessionId := item.sessionId
    state := {
      currentState := item.currentState
      lastEventKind := item.lastEventKind
      lastEventAtMs := item.lastEventAtMs
      lastPid := item.lastPid
      cwd := item.cwd
      startedAt := item.startedAt } }

/-- The topic wants the session, and no frame of it has gone out. -/
def wanted (topic : Topic) (covered : List SessionKey)
    (item : SessionListItem) : Bool :=
  topic.coversStateSession item.sessionId &&
    decide ((⟨item.source, item.sessionId⟩ : SessionKey) ∉ covered)

section Agree

variable (filter : List SessionCurrentState) (nowMs : Int)
variable (topic : Topic) (covered : List SessionKey)

/-- Row by row, the burst is the list, narrowed. -/
theorem snapshotFrame_item (row : Db.ProjectionRow) :
    snapshotFrame topic covered nowMs filter row =
      ((item filter nowMs row).filter (wanted topic covered)).map frameOf := by
  unfold snapshotFrame item
  cases row.state.parse with
  | none => simp
  | some stored =>
      simp only [Topic.matches_state]
      by_cases admitted :
          stateMatches filter (currentStateForRead stored nowMs) = true
      · simp only [admitted, if_true]
        by_cases selected : topic.coversStateSession row.sessionId = true
        · by_cases fresh : row.key ∈ covered
          · have known : (⟨row.source, row.sessionId⟩ : SessionKey) ∈ covered :=
              fresh
            simp [wanted, fresh, known]
          · have unknown :
                (⟨row.source, row.sessionId⟩ : SessionKey) ∉ covered := fresh
            simp [wanted, selected, fresh, unknown, frameOf]
        · simp [wanted, selected]
      · simp [admitted]

theorem selectSessions_all (db : Db) :
    db.selectSessions 0 none = db.selectNonSentinelSessions := by
  simp [Db.selectSessions]

theorem list_all {params : SessionsParams} (db : Db)
    (parsed : stateFilter params = .ok filter) (unbounded : params.since = 0)
    (uncapped : params.limit = none) :
    list params (some db) (some nowMs) =
      .ok (db.selectNonSentinelSessions.filterMap (item filter nowMs)) := by
  simp [list, parsed, unbounded, uncapped, selectSessions_all, bind, Except.bind,
    pure, Except.pure]

variable {filter nowMs}

/-- Of every table, instant and filter: the list without a bound is the burst of
the widest state topic, item by item and in order, and the burst of any topic and
any covered keys is the list narrowed to what the topic still wants. -/
theorem list_agrees_with_snapshot {params : SessionsParams} (db : Db)
    (parsed : stateFilter params = .ok filter) (unbounded : params.since = 0)
    (uncapped : params.limit = none) :
    ∃ items, list params (some db) (some nowMs) = .ok items ∧
      snapshotForTopic .stateAll [] nowMs filter db = items.map frameOf ∧
      ∀ topic covered, snapshotForTopic topic covered nowMs filter db =
        (items.filter (wanted topic covered)).map frameOf := by
  have narrowed : ∀ topic covered,
      snapshotForTopic topic covered nowMs filter db =
        ((db.selectNonSentinelSessions.filterMap (item filter nowMs)).filter
          (wanted topic covered)).map frameOf := by
    intro topic covered
    rw [List.filter_filterMap, List.map_filterMap]
    unfold snapshotForTopic
    split
    · exact List.filterMap_congr fun row _ => snapshotFrame_item _ _ _ _ row
    · rename_i foreign
      refine (List.filterMap_eq_nil_iff.mpr fun row _ => ?_).symm
      rw [← snapshotFrame_item]
      by_contra shown
      obtain ⟨frame, shown⟩ := Option.ne_none_iff_exists'.mp shown
      obtain ⟨_, _, _, covers, _⟩ := snapshotFrame_eq_some.mp shown
      exact foreign (Topic.coversStateSession_family covers)
  refine ⟨_, list_all filter nowMs db parsed unbounded uncapped, ?_, narrowed⟩
  rw [narrowed .stateAll []]
  congr 1
  exact List.filter_eq_self.mpr fun item _ => by
    simp [wanted, Topic.coversStateSession]

end Agree

/-! Two sessions, one of them long at work, a row that is no state, and the
daemon's own. -/

def mixedDb : Db :=
  let state (current : SessionCurrentState) (lastEventAtMs : Int) :
      SessionState :=
    { currentState := current
      lastEventKind := .preToolUse
      lastEventAtMs
      lastPid := some 7
      cwd := none
      startedAt := some 1 }
  { Db.empty with
    projections := [
      { source := "claude", sessionId := "a", state := .json (state .working 1),
        updatedAt := 1 },
      { source := "claude", sessionId := "b",
        state := .json (state .working 400000), updatedAt := 400000 },
      { source := "claude", sessionId := "c", state := .other "?",
        updatedAt := 5 },
      { source := daemonSentinelSource, sessionId := daemonSentinelSession,
        state := .other emptyPayload, updatedAt := 9 }] }

theorem list_agrees_with_snapshot_mixedDb :
    ∃ items, list { state := some "idle" } (some mixedDb) (some 400000) =
        .ok items ∧ items.map (·.sessionId) = ["a"] ∧
      snapshotForTopic .stateAll [] 400000 [.idle] mixedDb =
        items.map frameOf := by
  obtain ⟨items, listed, agrees, _⟩ :=
    @list_agrees_with_snapshot [.idle] 400000 { state := some "idle" } mixedDb
      (by decide) rfl rfl
  refine ⟨items, listed, ?_, agrees⟩
  have known : list { state := some "idle" } (some mixedDb) (some 400000) =
      .ok (mixedDb.selectNonSentinelSessions.filterMap
        (item [.idle] 400000)) :=
    list_all [.idle] 400000 mixedDb (by decide) rfl rfl
  rw [listed, Except.ok.injEq] at known
  rw [known]
  decide

end Bowerbird.Api.Sessions
