import Bowerbird.Commands.Export

namespace Bowerbird.Commands.Export

open Protocol Foundation Ingest Api Projection

/-! The pages of an export while the daemon goes on writing.  Each request finds
the database as it is by then. -/

section Run

variable (serde : Serde) (dbs : Nat → Option Db) (sessionId : String)

/-- The loop over the pages; the next one is asked for by this request. -/
def writeLive : Nat → Nat → Int → EventListResponse →
    Option (Except String (List UInt8))
  | 0, _, _, _ => none
  | fuel + 1, request, since, page =>
      let written := page.events.flatMap line
      match page.cursor with
      | none => some (.ok written)
      | some cursor =>
          if cursor ≤ since then
            some (.error ("daemon returned non-increasing cursor (" ++
              toString since ++ " -> " ++ toString cursor ++
              "); export would loop"))
          else
            match fetchEventsPage serde (dbs request) sessionId cursor with
            | .error error => some (.error error)
            | .ok next =>
                (writeLive fuel (request + 1) cursor next).map
                  (·.map fun later => written ++ later)

def runLive (fuel : Nat) : Option (Except String (List UInt8)) :=
  match fetchEventsPage serde (dbs 0) sessionId 0 with
  | .error error => some (.error error)
  | .ok page => writeLive serde dbs sessionId fuel 1 0 page

end Run

/-- When nothing is written meanwhile, this is the loop of `run`. -/
theorem runLive_const (serde : Serde) (db : Option Db) (sessionId : String)
    (fuel : Nat) :
    runLive serde (fun _ => db) sessionId fuel = run serde db sessionId fuel := by
  have pages (request : Nat) (since : Int) (page : EventListResponse) :
      writeLive serde (fun _ => db) sessionId fuel request since page =
        writePages serde db sessionId fuel since page := by
    induction fuel generalizing request since page with
    | zero => rfl
    | succ fuel induction =>
        rw [writeLive, writePages]
        cases page.cursor with
        | none => rfl
        | some cursor =>
            dsimp only
            split
            · rfl
            · cases fetchEventsPage serde db sessionId cursor with
              | error error => rfl
              | ok next =>
                  dsimp only
                  rw [induction]
  unfold runLive run
  cases fetchEventsPage serde db sessionId 0 with
  | error error => rfl
  | ok page => exact pages 1 0 page

/-! The events of a session, in the order of the log. -/

def ofSession (sessionId : String) (row : Db.EventRow) : Bool :=
  row.source ≠ "__daemon__" && row.sessionId = sessionId

def history (rows : List Db.EventRow) (sessionId : String) : List Event :=
  (rows.filter (ofSession sessionId)).filterMap Events.ofRow

theorem history_append (first second : List Db.EventRow) (sessionId : String) :
    history (first ++ second) sessionId =
      history first sessionId ++ history second sessionId := by
  rw [history, List.filter_append, List.filterMap_append]
  rfl

/-- A page is what the history has after an id. -/
theorem page_events (db : Db) (sessionId : String) (since : Int) :
    (Events.page db sessionId since).events =
      (history db.events sessionId).filter (since < ·.eventId) := by
  have selected : db.selectEventsForSessionSince sessionId since =
      (db.events.filter (ofSession sessionId)).filter (since < ·.eventId) := by
    rw [List.filter_filter, Db.selectEventsForSessionSince]
    exact List.filter_congr fun row _ => Bool.and_comm _ _
  rw [Events.page, selected, history, List.filterMap_filter, List.filter_filterMap]
  refine List.filterMap_congr fun row _ => ?_
  cases read : Events.ofRow row with
  | none => rw [ite_self, Option.filter_none]
  | some event => rw [Option.filter_some, (Events.ofRow_fields read).1]

theorem mem_history {rows : List Db.EventRow} {sessionId : String}
    {event : Event} (member : event ∈ history rows sessionId) :
    ∃ row ∈ rows, event.eventId = row.eventId := by
  obtain ⟨row, selected, read⟩ := List.mem_filterMap.mp member
  exact ⟨row, (List.mem_filter.mp selected).1, (Events.ofRow_fields read).1⟩

theorem history_ascending {rows : List Db.EventRow}
    (ascending : rows.Pairwise fun first second => first.eventId < second.eventId)
    (sessionId : String) :
    (history rows sessionId).Pairwise fun first second =>
      first.eventId < second.eventId := by
  refine List.Pairwise.filterMap _ ?_ (ascending.filter _)
  intro row other below event read later readLater
  rw [(Events.ofRow_fields read).1, (Events.ofRow_fields readLater).1]
  exact below

/-- After the last event of a part comes what follows that part. -/
theorem filter_after_last {front back : List Event} {last : Event}
    (ascending : (front ++ back).Pairwise fun first second =>
      first.eventId < second.eventId)
    (ends : front.getLast? = some last) :
    (front ++ back).filter (last.eventId < ·.eventId) = back := by
  obtain ⟨before, rfl⟩ := List.getLast?_eq_some_iff.mp ends
  obtain ⟨earlier, _, later⟩ := List.pairwise_append.mp ascending
  obtain ⟨_, _, below⟩ := List.pairwise_append.mp earlier
  have none : (before ++ [last]).filter (last.eventId < ·.eventId) = [] := by
    rw [List.filter_eq_nil_iff]
    intro event member
    rw [decide_eq_true_eq]
    rcases List.mem_append.mp member with member | member
    · have less := below event member last (List.mem_singleton_self _)
      omega
    · rw [List.mem_singleton.mp member]
      exact Int.lt_irrefl _
  have all : back.filter (last.eventId < ·.eventId) = back := by
    rw [List.filter_eq_self]
    intro event member
    rw [decide_eq_true_eq]
    exact later last (List.mem_append_right _ (List.mem_singleton_self _)) event
      member
  rw [List.filter_append, none, all, List.nil_append]

/-! What the writer does between two requests. -/

structure Grows (before after : Db) : Prop where
  events : before.events <+: after.events
  known : ∀ sessionId, before.selectSessionExistsById sessionId = true →
    after.selectSessionExistsById sessionId = true

theorem selectSessionExistsById_iff {db : Db} {sessionId : String} :
    db.selectSessionExistsById sessionId = true ↔
      ∃ source, source ≠ "__daemon__" ∧
        (db.projection ⟨source, sessionId⟩).isSome = true := by
  rw [Db.selectSessionExistsById, List.any_eq_true]
  constructor
  · rintro ⟨row, member, named⟩
    simp only [Bool.and_eq_true, decide_eq_true_eq] at named
    obtain ⟨rfl, user⟩ := named
    refine ⟨row.source, user, ?_⟩
    by_contra missing
    rw [Option.not_isSome_iff_eq_none] at missing
    exact KeyedTable.lookup_eq_none.mp missing row member rfl
  · rintro ⟨source, user, found⟩
    obtain ⟨row, found⟩ := Option.isSome_iff_exists.mp found
    have key := KeyedTable.lookup_key found
    refine ⟨row, KeyedTable.lookup_mem found, ?_⟩
    have own : row.source = source := congrArg (·.source) key
    have session : row.sessionId = sessionId := congrArg (·.sessionId) key
    simp [own, session, user]

theorem grows_of_chained {Owner : Type} {before after : Db}
    {committed : List (Commit Owner)}
    (chained : Chained before committed after) : Grows before after where
  events := by
    rw [chained.events]
    exact List.prefix_append _ _
  known := by
    intro sessionId present
    obtain ⟨source, user, found⟩ := selectSessionExistsById_iff.mp present
    exact selectSessionExistsById_iff.mpr
      ⟨source, user, chained.projection_kept found⟩

/-! The requests of one export. -/

section Requests

variable (dbs : Nat → Db) (sessionId : String)

/-- The id that a request asks for the events after. -/
def sinceAt : Nat → Int
  | 0 => 0
  | request + 1 =>
      ((Events.page (dbs request) sessionId (sinceAt request)).cursor).getD
        (sinceAt request)

def pageAt (request : Nat) : EventListResponse :=
  Events.page (dbs request) sessionId (sinceAt dbs sessionId request)

/-- What the pages before a request have brought. -/
def broughtBefore : Nat → List Event
  | 0 => []
  | request + 1 => history (dbs request).events sessionId

/-- The database that a session is exported from, as it grows, and a JSON library
that reads its pages as they were printed. -/
structure Served (serde : Serde) : Prop where
  wellFormed : ∀ request, (dbs request).WellFormed
  ranged : ∀ request, Ranged (dbs request)
  positive : ∀ request, ∀ row ∈ (dbs request).events, 0 < row.eventId
  grows : ∀ request, Grows (dbs request) (dbs (request + 1))
  present : (dbs 0).selectSessionExistsById sessionId = true
  reads : ∀ request, serde.read (text (responseJson (pageAt dbs sessionId
    request))) = some (responseJson (pageAt dbs sessionId request))

/-- The pages so far and this one make up the history. -/
def Complete (request : Nat) : Prop :=
  history (dbs request).events sessionId =
    broughtBefore dbs sessionId request ++ (pageAt dbs sessionId request).events

end Requests

section Paging

variable {serde : Serde} {dbs : Nat → Db} {sessionId : String}

theorem Served.known (served : Served dbs sessionId serde) (request : Nat) :
    (dbs request).selectSessionExistsById sessionId = true := by
  induction request with
  | zero => exact served.present
  | succ request induction => exact (served.grows request).known _ induction

theorem Served.fetched (served : Served dbs sessionId serde) (request : Nat) :
    fetchEventsPage serde (some (dbs request)) sessionId
      (sinceAt dbs sessionId request) = .ok (pageAt dbs sessionId request) :=
  fetchEventsPage_page (served.ranged request) (served.known request)
    (served.reads request)

theorem Served.ascending (served : Served dbs sessionId serde) (request : Nat) :
    (history (dbs request).events sessionId).Pairwise fun first second =>
      first.eventId < second.eventId :=
  history_ascending (served.wellFormed request).ascending sessionId

theorem complete_zero (served : Served dbs sessionId serde) :
    Complete dbs sessionId 0 := by
  rw [Complete, broughtBefore, List.nil_append, pageAt, page_events]
  refine (List.filter_eq_self.mpr fun event member => ?_).symm
  obtain ⟨row, stored, same⟩ := mem_history member
  rw [decide_eq_true_eq, same]
  exact served.positive 0 row stored

theorem pageAt_cursor (request : Nat) :
    (pageAt dbs sessionId request).cursor =
      (pageAt dbs sessionId request).events.getLast?.map (·.eventId) :=
  rfl

/-- A page that has an event has a cursor, beyond what was asked for. -/
theorem cursor_of_page {request : Nat}
    (filled : (pageAt dbs sessionId request).events ≠ []) :
    ∃ event, (pageAt dbs sessionId request).events.getLast? = some event ∧
      (pageAt dbs sessionId request).cursor = some event.eventId ∧
      sinceAt dbs sessionId (request + 1) = event.eventId ∧
      sinceAt dbs sessionId request < event.eventId := by
  obtain ⟨event, last⟩ : ∃ event,
      (pageAt dbs sessionId request).events.getLast? = some event :=
    ⟨_, List.getLast?_eq_some_getLast filled⟩
  have cursor : (pageAt dbs sessionId request).cursor = some event.eventId := by
    rw [pageAt_cursor, last, Option.map_some]
  refine ⟨event, last, cursor, ?_, ?_⟩
  · rw [sinceAt, ← pageAt, cursor, Option.getD_some]
  · have member := List.mem_of_getLast? last
    rw [pageAt, page_events, List.mem_filter, decide_eq_true_eq] at member
    exact member.2

/-- The next page is all that has come since. -/
theorem Complete.next (served : Served dbs sessionId serde) {request : Nat}
    (complete : Complete dbs sessionId request)
    (filled : (pageAt dbs sessionId request).events ≠ []) :
    Complete dbs sessionId (request + 1) := by
  obtain ⟨event, last, _, since, _⟩ := cursor_of_page filled
  obtain ⟨more, rows⟩ := (served.grows request).events
  have ascending := served.ascending (request + 1)
  have ends : (history (dbs request).events sessionId).getLast? = some event := by
    rw [complete, List.getLast?_append, last]
    rfl
  rw [← rows, history_append] at ascending
  rw [Complete, broughtBefore, pageAt, page_events, since, ← rows, history_append,
    filter_after_last ascending ends]

/-- How the loop ends that is about to write this page. -/
structure Ends (dbs : Nat → Db) (sessionId : String) (request last : Nat)
    (written : List UInt8) : Prop where
  later : request ≤ last
  filled : ∀ earlier, request ≤ earlier → earlier < last →
    (pageAt dbs sessionId earlier).events ≠ []
  ended : (pageAt dbs sessionId last).events = []
  whole : ∃ events, written = events.flatMap line ∧
    broughtBefore dbs sessionId request ++ events =
      history (dbs last).events sessionId

theorem writeLive_ends (served : Served dbs sessionId serde) (fuel : Nat)
    {request : Nat} (complete : Complete dbs sessionId request) :
    (writeLive serde (fun request => some (dbs request)) sessionId fuel
        (request + 1) (sinceAt dbs sessionId request)
        (pageAt dbs sessionId request) = none ∧
      ∀ earlier, request ≤ earlier → earlier < request + fuel →
        (pageAt dbs sessionId earlier).events ≠ []) ∨
    ∃ last written, last < request + fuel ∧
      writeLive serde (fun request => some (dbs request)) sessionId fuel
        (request + 1) (sinceAt dbs sessionId request)
        (pageAt dbs sessionId request) = some (.ok written) ∧
      Ends dbs sessionId request last written := by
  induction fuel generalizing request with
  | zero => exact .inl ⟨rfl, fun earlier least below => by omega⟩
  | succ fuel induction =>
      by_cases filled : (pageAt dbs sessionId request).events = []
      · have cursor : (pageAt dbs sessionId request).cursor = none := by
          rw [pageAt_cursor, filled]
          rfl
        refine .inr ⟨request, [], by omega, ?_, ?_⟩
        · rw [writeLive, cursor, filled]
          rfl
        · refine ⟨Nat.le_refl _, fun earlier least below => by omega, filled,
            [], rfl, ?_⟩
          rw [complete, filled]
      · obtain ⟨event, _, cursor, since, above⟩ := cursor_of_page filled
        have fetched := served.fetched (request + 1)
        rw [since] at fetched
        have goes : writeLive serde (fun request => some (dbs request)) sessionId
            (fuel + 1) (request + 1) (sinceAt dbs sessionId request)
            (pageAt dbs sessionId request) =
              (writeLive serde (fun request => some (dbs request)) sessionId fuel
                (request + 1 + 1) (sinceAt dbs sessionId (request + 1))
                (pageAt dbs sessionId (request + 1))).map
                  (·.map fun later =>
                    (pageAt dbs sessionId request).events.flatMap line ++ later) := by
          rw [writeLive, cursor, since]
          dsimp only
          rw [if_neg (by omega), fetched]
        rw [goes]
        rcases induction (complete.next served filled) with
          ⟨unfinished, more⟩ | ⟨last, written, below, wrote, ends⟩
        · refine .inl ⟨by rw [unfinished]; rfl, fun earlier least before => ?_⟩
          rcases Nat.eq_or_lt_of_le least with rfl | after
          · exact filled
          · exact more earlier after (by omega)
        · refine .inr ⟨last, _, by omega, by rw [wrote]; rfl, ?_⟩
          obtain ⟨events, same, whole⟩ := ends.whole
          refine ⟨by have := ends.later; omega, ?_, ends.ended,
            (pageAt dbs sessionId request).events ++ events, ?_, ?_⟩
          · intro earlier least before
            rcases Nat.eq_or_lt_of_le least with rfl | after
            · exact filled
            · exact ends.filled earlier after before
          · rw [List.flatMap_append, same]
          · rw [← List.append_assoc, ← complete]
            exact whole

/-- However the log grows between the pages, the loop ends with the first page
that has no event, and has written the history as that page found it. -/
theorem export_complete (served : Served dbs sessionId serde) (fuel : Nat) :
    (runLive serde (fun request => some (dbs request)) sessionId fuel = none ∧
      ∀ request < fuel, (pageAt dbs sessionId request).events ≠ []) ∨
    ∃ last < fuel,
      runLive serde (fun request => some (dbs request)) sessionId fuel =
        some (.ok ((history (dbs last).events sessionId).flatMap line)) ∧
      (history (dbs last).events sessionId).Pairwise (fun first second =>
        first.eventId < second.eventId) ∧
      (pageAt dbs sessionId last).events = [] ∧
      ∀ request < last, (pageAt dbs sessionId request).events ≠ [] ∧
        sinceAt dbs sessionId request < sinceAt dbs sessionId (request + 1) := by
  have fetched : fetchEventsPage serde (some (dbs 0)) sessionId 0 =
      .ok (pageAt dbs sessionId 0) := served.fetched 0
  have begins : runLive serde (fun request => some (dbs request)) sessionId fuel =
      writeLive serde (fun request => some (dbs request)) sessionId fuel 1
        (sinceAt dbs sessionId 0) (pageAt dbs sessionId 0) := by
    rw [runLive, fetched]
    rfl
  rw [begins]
  rcases writeLive_ends served fuel (complete_zero served) with
    ⟨unfinished, more⟩ | ⟨last, written, below, wrote, ends⟩
  · refine .inl ⟨unfinished, fun request before => ?_⟩
    exact more request (Nat.zero_le _) (by omega)
  · obtain ⟨events, same, whole⟩ := ends.whole
    rw [broughtBefore, List.nil_append] at whole
    refine .inr ⟨last, by omega, ?_, served.ascending last, ends.ended,
      fun request before => ?_⟩
    · rw [← whole, ← same]
      exact wrote
    · have filled := ends.filled request (Nat.zero_le _) before
      obtain ⟨event, _, _, since, above⟩ := cursor_of_page filled
      exact ⟨filled, since.symm ▸ above⟩

end Paging

/-! A log with a row that is skipped, and an event that comes after the first
page. -/

namespace Grown

def row (eventId : Int) (kind : String) : Db.EventRow :=
  { eventId
    source := "claude"
    sessionId := "a"
    kind
    reaction := none
    payload := ""
    createdAt := 7
    pid := none
    cwd := none }

def db (events : List Db.EventRow) : Db :=
  { events
    eventSeq := events.length
    projections :=
      [{ source := "claude", sessionId := "a", state := .other "", updatedAt := 7 }]
    recordings := []
    recordingSeq := 0 }

def before : Db :=
  db [row 1 "Stop", row 2 ""]

def after : Db :=
  db [row 1 "Stop", row 2 "", row 3 "Stop"]

def dbs : Nat → Db
  | 0 => before
  | _ + 1 => after

def table : List Json.Value :=
  [responseJson (Events.page before "a" 0), responseJson (Events.page after "a" 1),
    responseJson (Events.page after "a" 3)]

def serde : Serde where
  parse _ := none
  read text := table.find? (Json.print · = text.toList)
  parseError _ := ""
  eventError _ := ""
  utf8Error _ := ""

theorem pageAt_mem (request : Nat) :
    responseJson (pageAt dbs "a" request) ∈ table := by
  have second : sinceAt dbs "a" 1 = 1 := by decide
  have steady (request : Nat) : sinceAt dbs "a" (request + 2) = 3 := by
    induction request with
    | zero => decide
    | succ request induction =>
        have empty : (Events.page after "a" 3).cursor = none := by decide
        have later : dbs (request + 2) = after := rfl
        rw [sinceAt, induction, later, empty, Option.getD_none]
  match request with
  | 0 => exact List.mem_cons_self
  | 1 =>
      rw [pageAt, second]
      exact List.mem_cons_of_mem _ List.mem_cons_self
  | request + 2 =>
      rw [pageAt, steady]
      exact List.mem_cons_of_mem _ (List.mem_cons_of_mem _ List.mem_cons_self)

theorem reads {value : Json.Value} (member : value ∈ table) :
    serde.read (text value) = some value := by
  have distinct : (table.map Json.print).Nodup := by decide +kernel
  have found := find?_of_nodup distinct member
  rw [← String.toList_ofList (l := Json.print value)] at found
  exact found

theorem each {holds : Db → Prop} (first : holds before) (later : holds after)
    (request : Nat) : holds (dbs request) := by
  cases request with
  | zero => exact first
  | succ request => exact later

theorem ranged {events : List Db.EventRow}
    (plain : ∀ row ∈ events, EventJson.inI64 row.eventId = true ∧
      EventJson.inI64 row.createdAt = true ∧ row.pid = none) :
    Ranged (db events) where
  eventId := fun row member => (plain row member).1
  createdAt := fun row member => (plain row member).2.1
  pid := by
    intro row member pid present
    rw [(plain row member).2.2] at present
    cases present

theorem served : Served dbs "a" serde where
  wellFormed := each
    ⟨by decide, by decide, List.nodup_singleton _, by decide⟩
    ⟨by decide, by decide, List.nodup_singleton _, by decide⟩
  ranged := each (ranged (by decide)) (ranged (by decide))
  positive := @each (fun db => ∀ row ∈ db.events, 0 < row.eventId) (by decide)
    (by decide)
  grows := by
    intro request
    cases request with
    | zero => exact ⟨by decide, fun _ present => present⟩
    | succ request => exact ⟨List.prefix_refl _, fun _ present => present⟩
  present := by decide
  reads := fun request => reads (pageAt_mem request)

end Grown

theorem export_complete_grown :
    Served Grown.dbs "a" Grown.serde ∧
      ∃ last < 3, runLive Grown.serde (fun request => some (Grown.dbs request))
          "a" 3 =
        some (.ok ((history (Grown.dbs last).events "a").flatMap line)) := by
  refine ⟨Grown.served, ?_⟩
  rcases export_complete Grown.served 3 with ⟨_, more⟩ | ⟨last, below, wrote, _⟩
  · have empty : (pageAt Grown.dbs "a" 2).events = [] := by decide
    exact absurd empty (more 2 (by decide))
  · exact ⟨last, below, wrote⟩

end Bowerbird.Commands.Export
