import Bowerbird.Api.Replay
import Bowerbird.Api.Rest
import Bowerbird.Protocol.JsonPrefix

namespace Bowerbird.Commands.Export

open Protocol Foundation Ingest Api

/-! `export`: the history of a session, fetched page by page and written as one
JSON document a line.  Nothing is written to the database between two pages. -/

def text (value : Json.Value) : String :=
  String.ofList (Json.print value)

def responseJson (response : EventListResponse) : Json.Value :=
  .object [
    ("events", .array (response.events.map EventJson.toJson)),
    ("cursor", EventJson.ofOption EventJson.ofInt response.cursor),
    ("oldest_available_event_id",
      EventJson.ofInt response.oldestAvailableEventId)]

def asEvents : Json.Value → Option (List Event)
  | .array values => values.mapM EventJson.ofJson
  | _ => none

def responseOfJson : Json.Value → Option EventListResponse
  | .object fields => do
      let events ← EventJson.required asEvents fields "events"
      let cursor ← EventJson.defaulted EventJson.asI64 fields "cursor"
      let oldestAvailableEventId ← EventJson.required EventJson.asI64 fields
        "oldest_available_event_id"
      return { events, cursor, oldestAvailableEventId }
  | .array [events, cursor, oldestAvailableEventId] => do
      let events ← asEvents events
      let cursor ← EventJson.optional EventJson.asI64 cursor
      let oldestAvailableEventId ← EventJson.asI64 oldestAvailableEventId
      return { events, cursor, oldestAvailableEventId }
  | _ => none

def statusCode : RestError → Nat
  | .badRequest _ | .badState _ => 400
  | .notFound _ => 404
  | .internal _ => 500

def document (event : Event) : List UInt8 :=
  Utf8.encode (text (EventJson.toJson event))

def line (event : Event) : List UInt8 :=
  document event ++ [Utf8.newline]

section Run

variable (serde : Serde) (db : Option Db) (sessionId : String)

def fetchEventsPage (since : Int) : Except String EventListResponse :=
  match Events.list sessionId since db with
  | .ok response =>
      let body := Utf8.encode (text (responseJson response))
      match ((Utf8.decode body).bind serde.read).bind responseOfJson with
      | some page => .ok page
      | none => .error "parse /sessions/\x7bid\x7d/events response"
  | .error error =>
      if statusCode error = 404 then
        .error ("session " ++ sessionId ++ " not found")
      else .error ("daemon returned HTTP " ++ toString (statusCode error))

/-- The loop over the pages: what it writes, if the fuel lasts. -/
def writePages : Nat → Int → EventListResponse →
    Option (Except String (List UInt8))
  | 0, _, _ => none
  | fuel + 1, since, page =>
      let written := page.events.flatMap line
      match page.cursor with
      | none => some (.ok written)
      | some cursor =>
          if cursor ≤ since then
            some (.error ("daemon returned non-increasing cursor (" ++
              toString since ++ " -> " ++ toString cursor ++
              "); export would loop"))
          else
            match fetchEventsPage serde db sessionId cursor with
            | .error error => some (.error error)
            | .ok next =>
                (writePages fuel cursor next).map
                  (·.map fun later => written ++ later)

def run (fuel : Nat) : Option (Except String (List UInt8)) :=
  match fetchEventsPage serde db sessionId 0 with
  | .error error => some (.error error)
  | .ok page => writePages serde db sessionId fuel 0 page

end Run

/-! A page is read as it was sent. -/

/-- A table is looked up by what tells its entries apart. -/
theorem find?_of_nodup {α β : Type} [DecidableEq β] {key : α → β} {table : List α}
    {value : α} (distinct : (table.map key).Nodup) (member : value ∈ table) :
    table.find? (key · = key value) = some value := by
  induction table with
  | nil => cases member
  | cons first rest induction =>
      rw [List.map_cons, List.nodup_cons] at distinct
      rcases List.mem_cons.mp member with rfl | member
      · exact List.find?_cons_of_pos (decide_eq_true rfl)
      · have other : ¬ key first = key value := fun same =>
          distinct.1 (same ▸ List.mem_map_of_mem member)
        rw [List.find?_cons_of_neg (by simpa using other)]
        exact induction distinct.2 member

/-- The columns keep to their machine types. -/
structure Ranged (db : Db) : Prop where
  eventId : ∀ row ∈ db.events, EventJson.inI64 row.eventId = true
  createdAt : ∀ row ∈ db.events, EventJson.inI64 row.createdAt = true
  pid : ∀ row ∈ db.events, ∀ pid, row.pid = some pid → pid < 2 ^ 32

section Pages

variable {serde : Serde} {db : Db} {sessionId : String} {since : Int}
variable {event : Event}

theorem mapM_toJson {events : List Event}
    (small : ∀ event ∈ events, EventJson.InRange event) :
    (events.map EventJson.toJson).mapM EventJson.ofJson = some events := by
  induction events with
  | nil => rfl
  | cons event rest induction =>
      have first := EventJson.ofJson_toJson (small event List.mem_cons_self)
      have others := induction fun other member =>
        small other (List.mem_cons_of_mem _ member)
      rw [List.map_cons, List.mapM_cons, first, others]
      rfl

theorem responseOfJson_responseJson {response : EventListResponse}
    (events : ∀ event ∈ response.events, EventJson.InRange event)
    (cursor : ∀ cursor, response.cursor = some cursor →
      EventJson.inI64 cursor = true)
    (oldest : EventJson.inI64 response.oldestAvailableEventId = true) :
    responseOfJson (responseJson response) = some response := by
  have next : EventJson.optional EventJson.asI64
      (EventJson.ofOption EventJson.ofInt response.cursor) =
        some response.cursor := by
    apply EventJson.optional_ofOption
    · exact fun value present => EventJson.asI64_ofInt (cursor value present)
    · intro value absent
      unfold EventJson.ofInt at absent
      split at absent <;> cases absent
  simp [responseOfJson, responseJson, EventJson.required, EventJson.defaulted,
    EventJson.once, List.filter, asEvents, mapM_toJson events, next,
    EventJson.asI64_ofInt oldest]

/-- The events of a session that its history lists, in order. -/
def exported (db : Db) (sessionId : String) : List Event :=
  (Events.page db sessionId 0).events

theorem page_ranged (ranged : Ranged db) :
    ∀ event ∈ (Events.page db sessionId since).events,
      EventJson.InRange event := by
  intro event member
  obtain ⟨row, selected, read⟩ := List.mem_filterMap.mp member
  have inside : row ∈ db.events := (List.mem_filter.mp selected).1
  have same : event.createdAt = row.createdAt ∧ event.pid = row.pid := by
    unfold Events.ofRow at read
    split at read
    · cases read
    · split at read
      · cases read
      · cases read
        exact ⟨rfl, rfl⟩
  exact {
    eventId := (Events.ofRow_fields read).1 ▸ ranged.eventId row inside
    createdAt := same.1 ▸ ranged.createdAt row inside
    pid := same.2 ▸ ranged.pid row inside }

theorem oldest_ranged (ranged : Ranged db) :
    EventJson.inI64 (db.selectMinEventId.getD Projection.i64Max) = true := by
  cases least : db.selectMinEventId with
  | none => decide
  | some eventId =>
      obtain ⟨row, first, rfl⟩ := Option.map_eq_some_iff.mp least
      exact ranged.eventId row (List.mem_filter.mp (List.mem_of_mem_head? first)).1

theorem fetchEventsPage_page (ranged : Ranged db)
    (present : db.selectSessionExistsById sessionId = true)
    (reads : serde.read (text (responseJson (Events.page db sessionId since))) =
      some (responseJson (Events.page db sessionId since))) :
    fetchEventsPage serde (some db) sessionId since =
      .ok (Events.page db sessionId since) := by
  have decoded : responseOfJson (responseJson (Events.page db sessionId since)) =
      some (Events.page db sessionId since) := by
    refine responseOfJson_responseJson (page_ranged ranged) ?_
      (oldest_ranged ranged)
    intro cursor last
    obtain ⟨event, final, rfl⟩ := Option.map_eq_some_iff.mp last
    exact (page_ranged ranged event (List.mem_of_getLast? final)).eventId
  unfold fetchEventsPage
  rw [Events.list_page since present]
  dsimp only
  rw [Utf8.decode_encode, Option.bind_some, reads, Option.bind_some, decoded]

/-- What the daemon sends to the command and the command writes. -/
def documents (db : Db) (sessionId : String) : List Json.Value :=
  (exported db sessionId).map EventJson.toJson ++
    [responseJson (Events.page db sessionId 0),
      responseJson (Events.page db sessionId
        (((exported db sessionId).getLast?.map (·.eventId)).getD 0))]

/-- The JSON library reads these documents as they were printed. -/
def ReadsBack (serde : Serde) (db : Db) (sessionId : String) : Prop :=
  ∀ value ∈ documents db sessionId, serde.read (text value) = some value

theorem exported_ascending (wellFormed : db.WellFormed) (sessionId : String) :
    (exported db sessionId).Pairwise fun first second =>
      first.eventId < second.eventId := by
  refine List.Pairwise.filterMap _ ?_ (wellFormed.ascending.filter _)
  intro row other below event read later readLater
  rw [(Events.ofRow_fields read).1, (Events.ofRow_fields readLater).1]
  exact below

/-- Nothing follows the last event. -/
theorem page_after_last (wellFormed : db.WellFormed)
    (positive : ∀ row ∈ db.events, 0 < row.eventId)
    (last : (exported db sessionId).getLast? = some event) :
    (Events.page db sessionId event.eventId).events = [] := by
  rw [List.eq_nil_iff_forall_not_mem]
  intro later member
  obtain ⟨listed, own, above⟩ := Events.mem_events.mp member
  have inside : later ∈ exported db sessionId := by
    refine Events.mem_events.mpr ⟨listed, own, ?_⟩
    obtain ⟨row, stored, _, read⟩ := listed
    rw [(Events.ofRow_fields read).1]
    exact positive row stored
  have ascending := exported_ascending wellFormed sessionId
  obtain ⟨before, whole⟩ := List.getLast?_eq_some_iff.mp last
  rw [whole] at inside ascending
  rcases List.mem_append.mp inside with early | here
  · have below := (List.pairwise_append.mp ascending).2.2 later early event
      (List.mem_singleton_self _)
    omega
  · rw [List.mem_singleton.mp here] at above
    omega

/-- The command writes the whole history of a session that is there, with the
two pages that it always asks for. -/
theorem run_lines (wellFormed : db.WellFormed) (ranged : Ranged db)
    (positive : ∀ row ∈ db.events, 0 < row.eventId)
    (present : db.selectSessionExistsById sessionId = true)
    (reads : ReadsBack serde db sessionId) (fuel : Nat) :
    run serde (some db) sessionId (fuel + 2) =
      some (.ok ((exported db sessionId).flatMap line)) := by
  have first : fetchEventsPage serde (some db) sessionId 0 =
      .ok (Events.page db sessionId 0) :=
    fetchEventsPage_page ranged present (reads _ (by simp [documents]))
  unfold run
  rw [first]
  dsimp only
  rw [writePages]
  cases last : (exported db sessionId).getLast? with
  | none =>
      have cursor : (Events.page db sessionId 0).cursor = none := by
        rw [Events.page]
        exact congrArg (Option.map _) last
      rw [cursor]
      rfl
  | some event =>
      have cursor : (Events.page db sessionId 0).cursor = some event.eventId := by
        rw [Events.page]
        exact congrArg (Option.map _) last
      have later := page_after_last wellFormed positive last
      have second : fetchEventsPage serde (some db) sessionId event.eventId =
          .ok (Events.page db sessionId event.eventId) :=
        fetchEventsPage_page ranged present
          (reads _ (by simp [documents, last]))
      have above : 0 < event.eventId := by
        obtain ⟨_, _, above⟩ := Events.mem_events.mp (List.mem_of_getLast? last)
        exact above
      have ended : (Events.page db sessionId event.eventId).cursor = none := by
        have nothing : (Events.page db sessionId event.eventId).cursor =
            (Events.page db sessionId event.eventId).events.getLast?.map
              (·.eventId) := rfl
        rw [nothing, later]
        rfl
      rw [cursor]
      dsimp only
      rw [if_neg (by omega), second]
      dsimp only
      rw [writePages, ended, later]
      simp only [List.flatMap_nil, Option.map_some, Except.map,
        List.append_nil]
      rfl

end Pages

/-! The lines of what was written. -/

theorem newline_not_mem_document (event : Event) :
    Utf8.newline ∉ document event := by
  intro member
  have broken := Utf8.newline_mem_encode.mp member
  rw [text, String.toList_ofList] at broken
  exact absurd (Json.print_visible _ _ broken) (by decide)

theorem document_opens (event : Event) :
    ∃ rest, document event = 123 :: rest := by
  obtain ⟨rest, printed⟩ : ∃ rest, Json.print (EventJson.toJson event) =
      '{' :: rest := Json.print_object _
  refine ⟨rest.flatMap String.utf8EncodeChar, ?_⟩
  rw [document, text, printed, Utf8.encode, String.toList_ofList,
    List.flatMap_cons]
  rfl

theorem isRecord_document (event : Event) :
    Replay.isRecord (document event) = true := by
  obtain ⟨rest, opens⟩ := document_opens event
  have trimmed : Replay.trimAscii (document event) =
      (123 :: rest).rdropWhile Replay.isAsciiWhitespace := by
    rw [opens, Replay.trimAscii]
    rfl
  have begins := List.rdropWhile_prefix Replay.isAsciiWhitespace (123 :: rest)
  rw [Replay.isRecord, trimmed]
  cases kept : (123 :: rest).rdropWhile Replay.isAsciiWhitespace with
  | nil =>
      have blank := List.rdropWhile_eq_nil_iff.mp kept 123 List.mem_cons_self
      exact absurd blank (by decide)
  | cons byte others =>
      rw [kept] at begins
      obtain ⟨_, whole⟩ := begins
      cases whole
      rfl

/-- The text splits into the documents that it was joined from. -/
theorem lines_flatMap_line (events : List Event) :
    Replay.lines (events.flatMap line) = events.map document ++ [[]] := by
  induction events with
  | nil => rfl
  | cons event rest induction =>
      rw [List.flatMap_cons, line, List.append_assoc, List.singleton_append,
        Replay.lines, List.splitOn_append_cons_self_of_not_mem
          (newline_not_mem_document event), ← Replay.lines, induction]
      rfl

theorem records_flatMap_line (events : List Event) :
    (Replay.lines (events.flatMap line)).filter Replay.isRecord =
      events.map document := by
  rw [lines_flatMap_line, List.filter_append,
    List.filter_cons_of_neg (by decide), List.filter_nil, List.append_nil]
  refine List.filter_eq_self.mpr fun document member => ?_
  obtain ⟨event, _, rfl⟩ := List.mem_map.mp member
  exact isRecord_document event

end Bowerbird.Commands.Export
