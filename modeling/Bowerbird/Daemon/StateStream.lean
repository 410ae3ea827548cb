import Bowerbird.Daemon.Connection

namespace Bowerbird.Daemon

open Protocol Foundation Projection Api

/-! The states of one session on their way to the client: shown already, in the
rest of a burst, waiting in the channel, or owed by a write. -/

variable (key : SessionKey)

def ofFrame (frame : StateFrame) : Option SessionState :=
  if frame.key = key then some frame.state else none

/-- The state frames of the session, each with its origin. -/
def stateShown : ConnSeen → Option (SessionState × Origin)
  | .frame (.state frame) origin => (ofFrame key frame).map (·, origin)
  | _ => none

def stateArriving (envelope : BroadcastEnvelope) : Option SessionState :=
  match envelope.state? with
  | some (own, state) => if own = key then some state else none
  | none => none

/-- The rest of a burst, as far as the session is concerned. -/
def burstShown (conn : Conn) : List (SessionState × Origin) :=
  match conn.phase with
  | .emitting nowMs asOf frames =>
      (frames.filterMap (ofFrame key)).map (·, .snapshot nowMs asOf)
  | _ => []

/-- Everything that is shown for sure, in order. -/
def shown (conn : Option Conn) (seen : List ConnSeen) :
    List (SessionState × Origin) :=
  seen.filterMap (stateShown key) ++ conn.elim [] (burstShown key)

/-- What is published and not yet taken, or committed and not yet published. -/
def transit (conn : Option Conn) (store : Store WriterTask) :
    List BroadcastEnvelope :=
  conn.elim [] (store.hub.drop ·.next) ++ store.owed

def pending (conn : Option Conn) (store : Store WriterTask) :
    List SessionState :=
  (transit conn store).filterMap (stateArriving key)

variable {key}

theorem stateArriving_state {source sessionId : String} {state : SessionState} :
    stateArriving key (.state source sessionId state) =
      ofFrame key ⟨source, sessionId, state⟩ :=
  rfl

theorem stateArriving_event {event : Event} :
    stateArriving key (.event event) = none :=
  rfl

theorem stateArriving_self (key : SessionKey) (state : SessionState) :
    stateArriving key (.state key.source key.sessionId state) = some state :=
  if_pos rfl

theorem stateArriving_ne {other : SessionKey} {state : SessionState}
    (distinct : other ≠ key) :
    stateArriving key (.state other.source other.sessionId state) = none :=
  if_neg distinct

theorem stateArriving_eq_some {envelope : BroadcastEnvelope}
    {state : SessionState}
    (arriving : stateArriving key envelope = some state) :
    envelope = .state key.source key.sessionId state := by
  cases envelope with
  | event event => cases arriving
  | state source sessionId current =>
      simp only [stateArriving, BroadcastEnvelope.state?] at arriving
      split_ifs at arriving with same
      cases arriving
      subst same
      rfl

theorem stateShown_live {envelope : BroadcastEnvelope} :
    stateShown key (.frame (envelopeFrame envelope) .live) =
      (stateArriving key envelope).map (·, .live) := by
  cases envelope <;> rfl

theorem burstShown_afterBurst {conn : Conn} {nowMs asOf : Int}
    {frames : List StateFrame}
    (phase : conn.phase = Conn.afterBurst nowMs asOf frames) :
    burstShown key conn =
      (frames.filterMap (ofFrame key)).map (·, .snapshot nowMs asOf) := by
  unfold burstShown
  rw [phase]
  cases frames <;> rfl

theorem burstShown_receiving {conn : Conn}
    (receives : Conn.receiving conn.phase = true) : burstShown key conn = [] := by
  unfold burstShown
  split
  · rename_i emitting
    rw [emitting] at receives
    cases receives
  · rfl

theorem droppedFrames_silent (report : Option DroppedFrame) :
    (Conn.droppedFrames report).filterMap (stateShown key) = [] := by
  cases report <;> rfl

/-! What the steps of the store do to the envelopes on their way. -/

section Transit

variable {conn : Option Conn} {store next : Store WriterTask}
variable {seen : List (StoreSeen WriterTask)}

theorem owed_unsettled {flight : InFlight WriterTask}
    (busy : store.inFlight = some flight) (unsettled : flight.result = none) :
    store.owed = [] := by
  simp [Store.owed, busy, unsettled]

theorem owed_settled {flight : InFlight WriterTask}
    {result : Except SqlError Outcome} (busy : store.inFlight = some flight)
    (settled : flight.result = some result) :
    store.owed = announcements flight.request flight.nowMs result := by
  simp [Store.owed, busy, settled]

theorem transit_begin {owner : WriterTask} {request : WriteRequest}
    {nowMs : Int} (taken : store.begin owner request nowMs = some (next, seen)) :
    transit conn next = transit conn store := by
  obtain ⟨free, _, _, rfl⟩ := Store.begin_cases taken
  simp [transit, Store.owed, free]

/-- A transaction that leaves its outcome in the database. -/
structure Commits (store next : Store WriterTask) (flight : InFlight WriterTask)
    (result : Except SqlError Outcome) : Prop where
  busy : store.inFlight = some flight
  unsettled : flight.result = none
  outcome : flight.request.outcome flight.nowMs store.db =
    (result, some next.db)
  hub : next.hub = store.hub
  settled : next.inFlight = some { flight with result := some result }

/-- A transaction that leaves the database as it was. -/
structure Aborts (store next : Store WriterTask) (flight : InFlight WriterTask)
    (result : Except SqlError Outcome) : Prop where
  busy : store.inFlight = some flight
  unsettled : flight.result = none
  db : next.db = store.db
  hub : next.hub = store.hub
  settled : next.inFlight = some { flight with result := some result }
  owed : next.owed = []

theorem transact_settles {faults : FaultPlan}
    (taken : store.transact faults = some (next, seen)) :
    ∃ flight result, Commits store next flight result ∨
      Aborts store next flight result := by
  obtain ⟨flight, busy, unsettled, committed | aborted⟩ :=
    Store.transact_cases taken
  · obtain ⟨result, db, outcome, _, _, rfl⟩ := committed
    exact ⟨flight, result, .inl ⟨busy, unsettled, outcome, rfl, rfl⟩⟩
  · obtain ⟨result, aborts, _, _, rfl⟩ := aborted
    refine ⟨flight, result, .inr ⟨busy, unsettled, rfl, rfl, rfl, ?_⟩⟩
    exact announcements_uncommitted aborts

theorem Commits.transit {flight : InFlight WriterTask}
    {result : Except SqlError Outcome}
    (commits : Commits store next flight result) :
    transit conn next =
      transit conn store ++ announcements flight.request flight.nowMs result := by
  rw [Daemon.transit, Daemon.transit, commits.hub,
    owed_unsettled commits.busy commits.unsettled,
    owed_settled commits.settled rfl, List.append_nil]

theorem Aborts.transit {flight : InFlight WriterTask}
    {result : Except SqlError Outcome}
    (aborts : Aborts store next flight result) :
    transit conn next = transit conn store := by
  rw [Daemon.transit, Daemon.transit, aborts.hub, aborts.owed,
    owed_unsettled aborts.busy aborts.unsettled]

theorem transit_finish
    (within : ∀ open_, conn = some open_ → open_.next ≤ store.hub.length)
    (taken : store.finish = some (next, seen)) :
    (transit conn next).Sublist (transit conn store) ∧
      (conn.isSome → transit conn next = transit conn store) := by
  obtain ⟨flight, result, busy, settled, _, rfl⟩ := Store.finish_cases taken
  rw [transit, transit, owed_settled busy settled]
  cases conn with
  | none => simp [Store.owed]
  | some conn =>
      have bound := within conn rfl
      have same : conn.next - store.hub.length = 0 := Nat.sub_eq_zero_of_le bound
      simp [Store.owed, List.drop_append, same]

end Transit

/-! What a commit announces is what it stores. -/

theorem announced_stored (key : SessionKey) {request : WriteRequest} {nowMs : Int} {db next : Db}
    {result : Except SqlError Outcome}
    (outcome : request.outcome nowMs db = (result, some next)) :
    (announcements request nowMs result).filterMap (stateArriving key) = [] ∨
      ∃ state, key = (request.columns nowMs).key ∧
        next.stored key = some state ∧
        (announcements request nowMs result).filterMap (stateArriving key) =
          [state] := by
  have appends : request.Appends nowMs db next :=
    WriteRequest.outcome_appends (by rw [outcome])
  cases request with
  | event envelope precondition =>
      have stored := appends.stored_self
      simp only [WriteRequest.outcome] at outcome
      split at outcome
      · cases outcome
        simp only [announcements]
        split
        · rename_i changed
          by_cases same : envelope.key = key
          · subst same
            refine .inr ⟨_, rfl, stored, ?_⟩
            rw [List.filterMap_cons_none stateArriving_event]
            exact List.filterMap_cons_some (stateArriving_self envelope.key _)
          · refine .inl ?_
            rw [List.filterMap_cons_none stateArriving_event]
            exact List.filterMap_cons_none (stateArriving_ne same)
        · exact .inl rfl
      · cases outcome
  | recordingStarted =>
      cases outcome
      exact .inl rfl
  | recordingEnded recordingSessionId =>
      refine .inl ?_
      rw [announcements_recording fun _ _ => WriteRequest.noConfusion]
      rfl

/-- A commit that announces no state changed neither the stored one nor the one
that a reader was shown. -/
theorem announced_nothing {envelope : EventEnvelope}
    {precondition : Option WritePrecondition} {nowMs : Int} {db next : Db}
    {result : Except SqlError Outcome}
    (outcome : (WriteRequest.event envelope precondition).outcome nowMs db =
      (result, some next))
    (silent : (announcements (.event envelope precondition) nowMs
      result).filterMap (stateArriving envelope.key) = []) :
    ∃ before, db.stored envelope.key = some before ∧
      next.stored envelope.key =
        some (envelopeTransition envelope (some before) nowMs) ∧
      preconditionAdmits precondition (some before) = true ∧
      (envelopeTransition envelope (some before) nowMs).currentState =
        before.currentState ∧
      currentStateForRead before nowMs = before.currentState := by
  have appends : (WriteRequest.event envelope precondition).Appends nowMs db
      next := WriteRequest.outcome_appends (by rw [outcome])
  have stored : next.stored envelope.key =
      some (envelopeTransition envelope (db.stored envelope.key) nowMs) :=
    appends.stored_self
  simp only [WriteRequest.outcome] at outcome
  split at outcome
  · rename_i admits
    cases outcome
    simp only [announcements] at silent
    split at silent
    · rw [List.filterMap_cons_none stateArriving_event] at silent
      have announced := List.filterMap_cons_some (l := [])
        (stateArriving_self envelope.key (envelopeTransition envelope
          (db.stored envelope.key) nowMs))
      exact absurd (announced.symm.trans silent) (List.cons_ne_nil _ _)
    · rename_i unchanged
      simp only [stateChanged, Bool.or_eq_true, bne_iff_ne, not_or,
        not_not] at unchanged
      obtain ⟨raw, read⟩ := unchanged
      cases present : db.stored envelope.key with
      | none =>
          rw [present] at raw
          cases raw
      | some before =>
          rw [present] at raw read admits stored
          have same := Option.some.inj raw
          refine ⟨before, rfl, stored, admits, same.symm, ?_⟩
          exact (Option.some.inj read).trans same.symm
  · cases outcome

/-- A state still owed is the stored one. -/
theorem owed_stored {store : Store WriterTask} (holding : store.Holding)
    {state : SessionState}
    (member : state ∈ store.owed.filterMap (stateArriving key)) :
    store.db.stored key = some state := by
  cases busy : store.inFlight with
  | none => simp [Store.owed, busy] at member
  | some flight =>
      obtain ⟨_, held⟩ := holding flight busy
      cases settled : flight.result with
      | none =>
          rw [owed_unsettled busy settled] at member
          cases member
      | some result =>
          rw [settled] at held
          rw [owed_settled busy settled] at member
          rcases held with ⟨_, aborts⟩ | outcome
          · rw [announcements_uncommitted aborts] at member
            cases member
          · rcases announced_stored key outcome with
              silent | ⟨own, _, stored, announced⟩
            · rw [silent] at member
              cases member
            · rw [announced, List.mem_singleton] at member
              rw [member]
              exact stored

/-! What the steps of the connection do to them. -/

section Moves

variable {view : View} {conn next : Conn} {label : ConnLabel}
variable {out : List ConnSeen}

theorem burstShown_eq_nil {conn : Conn}
    (idle : ∀ nowMs asOf frames, conn.phase ≠ .emitting nowMs asOf frames) :
    burstShown key conn = [] := by
  unfold burstShown
  split
  · rename_i emitting
    exact absurd emitting (idle _ _ _)
  · rfl

theorem burstShown_emitting {conn : Conn} {nowMs asOf : Int}
    {frames : List StateFrame}
    (emitting : conn.phase = .emitting nowMs asOf frames) :
    burstShown key conn =
      (frames.filterMap (ofFrame key)).map (·, .snapshot nowMs asOf) := by
  simp [burstShown, emitting]

/-- The states that a connection may still show, before those of the channel. -/
def held (key : SessionKey) (view : View) (conn : Conn) : List SessionState :=
  (burstShown key conn).map Prod.fst ++
    (view.hub.drop conn.next).filterMap (stateArriving key)

theorem held_fewer (silent : out.filterMap (stateShown key) = [])
    (still : burstShown key next = [])
    (fewer : (view.hub.drop next.next).Sublist (view.hub.drop conn.next)) :
    ((out.filterMap (stateShown key)).map Prod.fst ++
      held key view next).Sublist (held key view conn) := by
  rw [silent, held, held, still]
  exact (fewer.filterMap _).trans (List.sublist_append_right _ _)

/-- A step other than a SELECT shows and keeps no state that was not on its way,
and none out of turn. -/
theorem moves_held (moves : Conn.Moves view conn label next out)
    (quiet : label.selects = false) :
    ((out.filterMap (stateShown key)).map Prod.fst ++
      held key view next).Sublist (held key view conn) := by
  cases moves with
  | @sent _ envelope receives found =>
      have still : burstShown key
          ({ conn with next := conn.next + 1 }.delivered envelope) = [] :=
        burstShown_receiving (by simpa using receives)
      rw [held, held, still, burstShown_receiving receives, Conn.delivered_next,
        Broadcast.drop_of_getElem? found,
        List.filterMap_cons_none (f := stateShown key) rfl]
      cases arriving : stateArriving key envelope with
      | none =>
          rw [List.filterMap_cons_none (by rw [stateShown_live, arriving]; rfl),
            List.filterMap_cons_none arriving]
          exact List.Sublist.refl _
      | some state =>
          have own : stateShown key (.frame (envelopeFrame envelope) .live) =
              some (state, .live) := by
            rw [stateShown_live, arriving]
            rfl
          rw [List.filterMap_cons_some own, List.filterMap_cons_some arriving]
          exact List.Sublist.refl _
  | unsent receives found =>
      refine held_fewer rfl rfl ?_
      rw [Broadcast.drop_of_getElem? found]
      exact List.sublist_cons_self _ _
  | filtered receives found =>
      refine held_fewer rfl (burstShown_receiving receives) ?_
      rw [Broadcast.drop_of_getElem? found]
      exact List.sublist_cons_self _ _
  | @lagged _ n _ _ _ _ _ phase report receives behind cleared lives =>
      refine held_fewer (droppedFrames_silent report) ?_ ?_
      · rcases lives with rfl | ⟨rfl, _⟩
        · exact burstShown_receiving receives
        · rfl
      · rw [← Broadcast.skipped_append_drop view.hub conn.next n]
        exact List.sublist_append_right _ _
  | @drained _ _ drain draining =>
      cases drain <;> exact held_fewer rfl rfl (List.Sublist.refl _)
  | @emitted nowMs asOf frame frames emitting =>
      rw [held, held, burstShown_afterBurst rfl, burstShown_emitting emitting]
      cases own : ofFrame key frame with
      | none =>
          have silent : stateShown key
              (.frame (.state frame) (.snapshot nowMs asOf)) = none := by
            simp [stateShown, own]
          rw [List.filterMap_cons_none silent, List.filterMap_cons_none own]
          exact List.Sublist.refl _
      | some state =>
          have shown : stateShown key
              (.frame (.state frame) (.snapshot nowMs asOf)) =
                some (state, .snapshot nowMs asOf) := by
            simp [stateShown, own]
          rw [List.filterMap_cons_some shown, List.filterMap_cons_some own]
          exact List.Sublist.refl _
  | ended _ reason =>
      refine held_fewer ?_ rfl (List.Sublist.refl _)
      cases reason <;> rfl
  | poked _ main =>
      refine held_fewer rfl (burstShown_receiving ?_) (List.Sublist.refl _)
      rw [main]
      rfl
  | readSnapshot => cases quiet
  | greeted | drains | readClock | unemitted | saidClose =>
      exact held_fewer rfl rfl (List.Sublist.refl _)

end Moves

section Selected

variable {world : World} {conn : Conn} {topic : Topic}
variable {states : List SessionCurrentState} {nowMs : Int} {read : Bool}

/-- The frames that a SELECT puts on their way. -/
def selected (world : World) (conn : Conn) (topic : Topic)
    (states : List SessionCurrentState) (nowMs : Int) (read : Bool) :
    List StateFrame :=
  if read then
    snapshotForTopic topic conn.snapshottedKeys nowMs states world.store.db
  else []

theorem selected_shows (wellFormed : world.store.db.WellFormed)
    {state : SessionState}
    (member : state ∈ (selected world conn topic states nowMs read).filterMap
      (ofFrame key)) :
    read = true ∧ ∃ stored, Shows topic conn.snapshottedKeys nowMs states
      world.store.db key stored ∧
      state = { stored with currentState := currentStateForRead stored nowMs } := by
  obtain ⟨frame, inside, own⟩ := List.mem_filterMap.mp member
  rw [ofFrame] at own
  split_ifs at own with same
  cases own
  subst same
  cases read with
  | false => cases inside
  | true => exact ⟨rfl, (mem_snapshotForTopic wellFormed).mp inside⟩

end Selected

end Bowerbird.Daemon
