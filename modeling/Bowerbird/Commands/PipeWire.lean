import Bowerbird.Commands.ReplayWire
import Bowerbird.Daemon.RoundTrip

namespace Bowerbird.Commands.PipeWire

open Protocol Foundation Foundation.Http Ingest Api Api.Router Commands.Http
open Export ReplayWire

/-! `export` piped into `replay`: one daemon's history becomes what the other is
sent, over connections that may fail. -/

section Clean

variable {serde : Serde}

/-- Of a replay that reports no error every record is an event that went in. -/
theorem verdicts_clean (lineNo : Nat) (answers : Nat → Replay.Answer)
    (lines : List (List UInt8))
    (clean : (Replay.verdicts serde lineNo answers lines).filterMap
      Replay.reported? = []) :
    List.Forall₂ (fun line item => Replay.item? serde line = some item)
      (lines.filter Replay.isRecord)
      (((Replay.verdicts serde lineNo answers lines).filterMap
        Replay.enqueued?).map Prod.snd) := by
  induction lines generalizing lineNo answers with
  | nil => exact .nil
  | cons line rest induction =>
      rw [Replay.verdicts] at clean ⊢
      cases judged : Replay.judgeLine serde line with
      | none =>
          rw [judged] at clean
          rw [List.filter_cons_of_neg (by
            rw [Replay.judgeLine_eq_none_iff.mp judged]
            exact Bool.false_ne_true)]
          exact induction (lineNo + 1) answers clean
      | some verdict =>
          have record : Replay.isRecord line = true := by
            by_contra blank
            have skipped : Replay.judgeLine serde line = none :=
              Replay.judgeLine_eq_none_iff.mpr (Bool.not_eq_true _ ▸ blank)
            rw [judged] at skipped
            cases skipped
          rw [judged] at clean
          cases verdict with
          | error error => cases clean
          | ok envelope =>
              dsimp only at clean ⊢
              cases answered : answers 0 with
              | error error =>
                  rw [answered] at clean
                  cases clean
              | ok _ =>
                  rw [answered] at clean
                  rw [List.filter_cons_of_pos record]
                  refine .cons ?_ (induction (lineNo + 1) _ clean)
                  rw [Replay.item?, judged]

theorem replay_clean {answers : Nat → Replay.Answer} {body : List UInt8}
    (clean : (Replay.replay serde answers body).response.parseErrors = []) :
    List.Forall₂ (fun line item => Replay.item? serde line = some item)
      ((Replay.lines body).filter Replay.isRecord)
      ((Replay.replay serde answers body).enqueued.map Prod.snd) := by
  rw [Replay.replay, Replay.runAnswered_eq] at clean ⊢
  exact verdicts_clean 1 answers (Replay.lines body) clean

end Clean

theorem replay_counted {serde : Serde} {answers : Nat → Replay.Answer}
    {body : List UInt8} :
    (Replay.replay serde answers body).response.replayedCount =
      (Replay.replay serde answers body).enqueued.length := by
  rw [Replay.replay, Replay.runAnswered_eq]
  exact Nat.zero_add _

/-- Where every record is an event and the channel takes it, no error is reported. -/
theorem verdicts_taken (lineNo : Nat) {answers : Nat → Replay.Answer}
    (takes : ∀ send, answers send = .ok ()) (lines : List (List UInt8))
    (brings : ∀ line ∈ lines.filter Replay.isRecord,
      ∃ item, Replay.item? serde line = some item) :
    (Replay.verdicts serde lineNo answers lines).filterMap Replay.reported? = [] := by
  induction lines generalizing lineNo answers with
  | nil => rfl
  | cons line rest induction =>
      have later : ∀ line ∈ rest.filter Replay.isRecord,
          ∃ item, Replay.item? serde line = some item := by
        intro other member
        apply brings other
        rw [List.filter_cons]
        split
        · exact List.mem_cons_of_mem line member
        · exact member
      rw [Replay.verdicts]
      cases judged : Replay.judgeLine serde line with
      | none => exact induction (lineNo + 1) takes later
      | some verdict =>
          cases verdict with
          | ok envelope =>
              rw [takes 0]
              exact induction (lineNo + 1) (fun send => takes (send + 1)) later
          | error error =>
              have record : Replay.isRecord line = true := by
                by_contra blank
                have skipped : Replay.judgeLine serde line = none :=
                  Replay.judgeLine_eq_none_iff.mpr (Bool.not_eq_true _ ▸ blank)
                rw [judged] at skipped
                cases skipped
              obtain ⟨item, brought⟩ := brings line
                (List.mem_filter.mpr ⟨List.mem_cons_self, record⟩)
              rw [Replay.item?, judged] at brought
              cases brought

theorem replay_taken {answers : Nat → Replay.Answer}
    (takes : ∀ send, answers send = .ok ()) {body : List UInt8}
    (brings : ∀ line ∈ (Replay.lines body).filter Replay.isRecord,
      ∃ item, Replay.item? serde line = some item) :
    (Replay.replay serde answers body).response.parseErrors = [] := by
  rw [Replay.replay, Replay.runAnswered_eq]
  exact verdicts_taken 1 takes _ brings

theorem history_ranged {db : Db} (ranged : Ranged db)
    (positive : ∀ row ∈ db.events, 0 < row.eventId) {sessionId : String} :
    ∀ event ∈ history db.events sessionId, EventJson.InRange event := by
  intro event member
  have page : event ∈ (Events.page db sessionId 0).events → EventJson.InRange event :=
    page_ranged ranged event
  rw [page_events] at page
  apply page
  rw [List.mem_filter, decide_eq_true_eq]
  obtain ⟨row, stored, same⟩ := mem_history member
  exact ⟨member, same ▸ positive row stored⟩

/-- An item of a replay carries this event. -/
structure Carries (serde : Serde) (event : Event) (item : IngestItem) : Prop where
  envelope : Adapter.replayEnvelope serde.parse event = .ok item.envelope
  origin : item.origin = .replay

theorem carries_of_document {serde : Serde} {event : Event} {item : IngestItem}
    (small : EventJson.InRange event)
    (reads : serde.read (text (EventJson.toJson event)) =
      some (EventJson.toJson event))
    (brings : Replay.item? serde (document event) = some item) :
    Carries serde event item := by
  obtain ⟨_, other, envelope, read, accepted, rfl⟩ := Replay.item?_eq_some_iff.mp brings
  rw [Replay.readEvent, document, Utf8.decode_encode, Option.bind_some, reads,
    Option.bind_some, EventJson.ofJson_toJson small] at read
  cases read
  exact ⟨accepted, rfl⟩

section Piped

variable {serde : Serde} {sessionId label : String} {dbs : Nat → Db}
variable {token addr bearer token' addr' bearer' : String}
variable {fields : Nat → List (List UInt8)} {fields' : List (List UInt8)}
variable {errorText : RestError → String}
variable {rejection rejection' : String} {others others' : Request → Export.Answer}

/-- When both commands report success and no line is refused, the second daemon has
been sent the whole history of the session as the first found it at the end, event
by event in its order, and the count that is printed is its length. -/
theorem pipe_over_wire (texts : ReadsTexts serde)
    (reaches : Reaches token addr bearer sessionId fields)
    (served : Served dbs sessionId serde) (posts : Posts addr' bearer' fields')
    (reads : ∀ request, ∀ event ∈ history (dbs request).events sessionId,
      serde.read (text (EventJson.toJson event)) = some (EventJson.toJson event))
    {passages : Nat → Passage} {fuel : Nat} {written : List UInt8}
    (exported : runWire serde token addr bearer sessionId fields errorText rejection
      others (fun request => some (dbs request)) passages fuel = some (.ok written))
    {attempt : Attempt}
    (readsBack : ReadsBack serde
      (Replay.replay serde attempt.answers written).response)
    {shown : Printed}
    (posted : (attempt.run serde token' addr' bearer' label fields' rejection' others'
      written).result = .ok shown) (clean : shown.stderr = []) :
    ∃ last < fuel, (pageAt dbs sessionId last).events = [] ∧
      ∃ replayed, (attempt.run serde token' addr' bearer' label fields' rejection'
          others' written).replayed = some replayed ∧
        List.Forall₂ (Carries serde) (history (dbs last).events sessionId)
          (replayed.enqueued.map Prod.snd) ∧
        shown.stdout = "replayed " ++
          toString (history (dbs last).events sessionId).length ++
          " events from " ++ label := by
  have listed : runWire serde token addr bearer sessionId fields errorText rejection
      others (fun request => some (dbs request)) passages fuel =
        runLive serde (fun request => some (dbs request)) sessionId fuel ∨ _ :=
    runWire_list texts reaches _ passages fuel
  rw [exported] at listed
  have wrote : runLive serde (fun request => some (dbs request)) sessionId fuel =
      some (.ok written) := by
    rcases listed with same | ⟨_, _, error, _, _, _, failed⟩
    · exact same.symm
    · cases failed
  obtain ⟨last, below, same, empty⟩ : ∃ last < fuel,
      written = (history (dbs last).events sessionId).flatMap Export.line ∧
        (pageAt dbs sessionId last).events = [] := by
    rcases runLive_served served fuel with ⟨last, below, ended, empty⟩ | ⟨unfinished, _⟩
    · rw [wrote] at ended
      cases ended
      exact ⟨last, below, rfl, empty⟩
    · rw [wrote] at unfinished
      cases unfinished
  obtain ⟨sent, told⟩ : (attempt.run serde token' addr' bearer' label fields'
      rejection' others' written).replayed =
        some (Replay.replay serde attempt.answers written) ∧
      shown = printed label (Replay.replay serde attempt.answers written).response := by
    rcases run_cases posts texts readsBack with
      ⟨same, _, _, told | ⟨_, error, failed⟩⟩ | ⟨_, ⟨error, failed⟩, _⟩
    · rw [told] at posted
      cases posted
      exact ⟨same, rfl⟩
    · rw [failed] at posted
      cases posted
    · rw [failed] at posted
      cases posted
  rw [told] at clean
  have brought := replay_clean (List.map_eq_nil_iff.mp clean)
  have lines : (Replay.lines written).filter Replay.isRecord =
      (history (dbs last).events sessionId).map document := by
    rw [same]
    exact records_flatMap_line _
  rw [lines, List.forall₂_map_left_iff] at brought
  have carried : List.Forall₂ (Carries serde) (history (dbs last).events sessionId)
      ((Replay.replay serde attempt.answers written).enqueued.map Prod.snd) := by
    have known : ∀ event ∈ history (dbs last).events sessionId,
        EventJson.InRange event ∧ serde.read (text (EventJson.toJson event)) =
          some (EventJson.toJson event) := fun event member =>
      ⟨history_ranged (served.ranged last) (served.positive last) event member,
        reads last event member⟩
    refine ((List.forall₂_and_left _ _).mpr ⟨known, brought⟩).imp ?_
    rintro event item ⟨⟨small, reads⟩, brings⟩
    exact carries_of_document small reads brings
  refine ⟨last, below, empty, _, sent, carried, ?_⟩
  rw [told, printed, replay_counted, carried.length_eq, List.length_map]

end Piped

/-! The log that grows after the first page, piped into another daemon. -/

namespace Copied

def events : List Event :=
  history Export.Grown.after.events "a"

def written : List UInt8 :=
  events.flatMap Export.line

def response : Replay.ReplayResponse :=
  { replayedCount := 2, parseErrors := [] }

def table : List Json.Value :=
  Export.Grown.table ++ events.map EventJson.toJson ++
    [ReplayWire.responseJson response]

def serde : Serde where
  parse _ := none
  read text := table.find? (Json.print · = text.toList)
  parseError _ := ""
  eventError _ := ""
  utf8Error _ := ""

def attempt : Attempt where
  arrival := .whole
  answers _ := .ok ()
  back := .whole

theorem reads {value : Json.Value} (member : value ∈ table) :
    serde.read (text value) = some value := by
  have distinct : (table.map Json.print).Nodup := by decide +kernel
  have found := find?_of_nodup distinct member
  rw [← String.toList_ofList (l := Json.print value)] at found
  exact found

theorem readsTexts : ReadsTexts serde := by
  intro spelled value read
  have printed := List.find?_some read
  rw [decide_eq_true_eq] at printed
  rw [← printed]
  exact (Json.print_spells _).alone

theorem reads_page {value : Json.Value} (member : value ∈ Export.Grown.table) :
    serde.read (text value) = some value :=
  reads (List.mem_append_left _ (List.mem_append_left _ member))

theorem served : Served Export.Grown.dbs "a" serde where
  wellFormed := Export.Grown.served.wellFormed
  ranged := Export.Grown.served.ranged
  positive := Export.Grown.served.positive
  grows := Export.Grown.served.grows
  present := Export.Grown.served.present
  reads := fun request => reads_page (Export.Grown.pageAt_mem request)

theorem reads_event (request : Nat) :
    ∀ event ∈ history (Export.Grown.dbs request).events "a",
      serde.read (text (EventJson.toJson event)) = some (EventJson.toJson event) := by
  intro event member
  have listed : event ∈ events := by
    cases request with
    | zero =>
        have early : history Export.Grown.before.events "a" <+: events := by decide
        exact early.subset member
    | succ request => exact member
  exact reads (List.mem_append_left _ (List.mem_append_right _
    (List.mem_map_of_mem listed)))

theorem records : (Replay.lines written).filter Replay.isRecord =
    events.map document :=
  records_flatMap_line events

theorem clean :
    (Replay.replay serde attempt.answers written).response.parseErrors = [] := by
  have takes : ∀ send, attempt.answers send = .ok () := fun _ => rfl
  refine replay_taken takes fun line member => ?_
  rw [records] at member
  obtain ⟨event, listed, rfl⟩ := List.mem_map.mp member
  have plain : ∀ event ∈ events, event.kind = .stop := by decide
  obtain ⟨envelope, accepted⟩ :
      ∃ envelope, Adapter.replayEnvelope serde.parse event = .ok envelope :=
    ⟨_, (Adapter.replayEnvelope_ok _).mpr
      ⟨by rw [plain event listed]; rfl, by rw [plain event listed]; decide, rfl⟩⟩
  exact ⟨_, Daemon.item?_document
    (history_ranged (served.ranged 1) (served.positive 1) event listed)
    (reads_event 1 event listed) accepted⟩

theorem replayed_response :
    (Replay.replay serde attempt.answers written).response = response := by
  have brought := (replay_clean clean).length_eq
  rw [records, List.length_map, List.length_map, ← replay_counted] at brought
  have clean := clean
  cases told : (Replay.replay serde attempt.answers written).response with
  | mk count errors =>
      rw [told] at brought clean
      cases brought
      cases clean
      rfl

theorem readsBack :
    ReadsBack serde (Replay.replay serde attempt.answers written).response := by
  rw [replayed_response]
  exact reads (List.mem_append_right _ (List.mem_singleton_self _))

theorem reaches : Reaches "t" "127.0.0.1:1" "t" "a" (fun _ => []) :=
  ⟨by decide, ⟨List.forall_mem_singleton.mpr (.inl (by decide)), by decide, rfl⟩,
    by decide, by simp⟩

theorem exported :
    runWire serde "t" "127.0.0.1:1" "t" "a" (fun _ => []) (fun _ => "") ""
      (fun _ => errorAnswer 404 "") (fun request => some (Export.Grown.dbs request))
      (fun _ => .whole) 3 = some (.ok written) := by
  have listed : runWire serde "t" "127.0.0.1:1" "t" "a" (fun _ => []) (fun _ => "") ""
      (fun _ => errorAnswer 404 "") (fun request => some (Export.Grown.dbs request))
      (fun _ => .whole) 3 =
        runLive serde (fun request => some (Export.Grown.dbs request)) "a" 3 ∨ _ :=
    runWire_list readsTexts reaches _ _ 3
  rcases listed with same | ⟨_, _, _, _, broken, _⟩
  · rw [same]
    rcases runLive_served served 3 with ⟨last, below, ended, empty⟩ | ⟨_, more⟩
    · have first : (pageAt Export.Grown.dbs "a" 0).events ≠ [] := by decide
      have second : (pageAt Export.Grown.dbs "a" 1).events ≠ [] := by decide
      have late : history (Export.Grown.dbs 2).events "a" = events := rfl
      rcases (by omega : last = 0 ∨ last = 1 ∨ last = 2) with rfl | rfl | rfl
      · exact absurd empty first
      · exact absurd empty second
      · rw [ended, late, written]
    · have empty : (pageAt Export.Grown.dbs "a" 2).events = [] := by decide
      exact absurd empty (more 2 (by decide))
  · exact absurd rfl broken

theorem written_short : written.length ≤ bodyLimitBytes := by
  have lines : Export.line = fun event =>
      (Json.print (EventJson.toJson event)).flatMap String.utf8EncodeChar ++
        [Utf8.newline] := by
    funext event
    rw [Export.line, document, text, Utf8.encode, String.toList_ofList]
  rw [written, lines]
  decide +kernel

theorem posted :
    (attempt.run serde "t" "127.0.0.1:2" "t" "s" [] ""
      (fun _ => errorAnswer 404 "") written).result = .ok (printed "s" response) := by
  have posts : Posts "127.0.0.1:2" "t" [] := ⟨by decide, by decide, by simp⟩
  rcases run_cases posts readsTexts readsBack with
    ⟨_, _, _, told | ⟨cut, _⟩⟩ | ⟨_, _, fails | large | cut⟩
  · rw [told, replayed_response]
  · exact absurd rfl cut
  · exact absurd reaches.admits fails
  · exact absurd written_short (Nat.not_le.mpr large)
  · exact absurd rfl cut

end Copied

/-- Two events are in the log by then. -/
theorem pipe_over_wire_copied :
    ∃ last < 3, ∃ replayed,
      (Copied.attempt.run Copied.serde "t" "127.0.0.1:2" "t" "s" [] ""
        (fun _ => errorAnswer 404 "") Copied.written).replayed = some replayed ∧
      List.Forall₂ (Carries Copied.serde)
        (history (Export.Grown.dbs last).events "a")
        (replayed.enqueued.map Prod.snd) := by
  obtain ⟨last, below, _, replayed, sent, carried, _⟩ :=
    pipe_over_wire Copied.readsTexts Copied.reaches Copied.served
      ⟨by decide, by decide, by simp⟩ Copied.reads_event Copied.exported
      Copied.readsBack Copied.posted rfl
  exact ⟨last, below, replayed, sent, carried⟩

end Bowerbird.Commands.PipeWire
