import PipelineWatch.Proofs.Digest.Sha256
import PipelineWatch.Proofs.Event.Kind
import PipelineWatch.Proofs.Message.Grammar

/-!
One envelope, delivered live as an event or with the backlog as a row. Whichever way it
comes, the same event is told of, but that a row fills in an empty version and an empty
key. An event that was filled in so is not changed when it is written and comes as a row
again, but for an unknown kind that bears a known marker, which no document is read as.
-/
namespace PipelineWatch

open Json (Members last? normalMembers)
open Record (Blank Setting TellsText TellsOptional)

/-! ### Filled and settled events -/

/-- The event with what an empty version and an empty key stand for. -/
def Event.filled (e : Event) : Event :=
  { e with
    version := if e.version = "" then Event.defaultVersion else e.version
    key := if e.key = "" then Event.deriveKey e.kind e.payload else e.key }

/-- The event with its kind named by the marker and its payload sorted, as every event that
was read has them. -/
def Event.settled (e : Event) : Event :=
  { e with kind := .ofMarker e.kind.marker, payload := normalMembers e.payload }

/-- The row that the document of an event is read as. -/
def Event.asRow (e : Event) : History where
  id := e.id
  kind := .ofMarker e.kind.marker
  version := some e.version
  timestamp := some e.timestamp
  createdAt := none
  producer := e.producer
  key := some e.key
  payload := normalMembers e.payload

namespace Event

theorem deriveKey_ne_empty (k : Kind) (p : Members) : deriveKey k p ≠ "" := by
  intro h
  have hlen := Digest.Sha256.length_hex (Text.Utf8.ofString (keyText k p))
  rw [show Digest.Sha256.hex _ = "" from h] at hlen
  simp at hlen

/-- Only the marker of the kind and the sorted payload go into the key. -/
theorem deriveKey_settled (k : Kind) (p : Members) :
    deriveKey (.ofMarker k.marker) (normalMembers p) = deriveKey k p := by
  simp only [deriveKey, keyText, canonicalText, Kind.marker_ofMarker, Json.normalize_object,
    Json.normalMembers_normalMembers]

theorem filled_settled (e : Event) : e.settled.filled = e.filled.settled := by
  simp only [filled, settled, deriveKey_settled]
  rfl

theorem filled_of_ne_empty {e : Event} (hversion : e.version ≠ "") (hkey : e.key ≠ "") :
    e.filled = e := by
  simp only [filled, if_neg hversion, if_neg hkey]

end Event

namespace History

/-! ### The event of a row -/

/-- A text that stands for itself unless it is empty. -/
theorem getD_filter_some (s absent : String) :
    ((some s).filter (· ≠ "")).getD absent = if s = "" then absent else s := by
  by_cases hs : s = "" <;> simp [Option.filter, hs]

theorem getD_filter_ne_empty {o : Option String} {absent : String} (h : absent ≠ "") :
    (o.filter (· ≠ "")).getD absent ≠ "" := by
  cases o with
  | none => exact h
  | some s =>
    rw [getD_filter_some]
    split
    · exact h
    · next hs => exact hs

/-- The event of a row has nothing left to fill in. -/
theorem filled_toEvent (r : History) : r.toEvent.filled = r.toEvent :=
  Event.filled_of_ne_empty (getD_filter_ne_empty (by decide))
    (getD_filter_ne_empty (Event.deriveKey_ne_empty _ _))

theorem toEvent_asRow (e : Event) : e.asRow.toEvent = e.settled.filled := by
  simp only [toEvent, Event.asRow, Event.settled, Event.filled, getD_filter_some]
  rfl

theorem decode_toJson (setting : Setting) (e : Event) :
    format.decode setting e.toJson.normalize = .ok e.asRow := by
  refine decode_eq_ok_iff.mpr ⟨_, .object, ?_⟩
  exact
    { id := rfl
      kind := ⟨e.kind.marker, rfl, rfl⟩
      version := .inr ⟨e.version, rfl, rfl⟩
      timestamp := .inr ⟨e.timestamp, rfl, rfl⟩
      createdAt := .inl ⟨.inl rfl, rfl⟩
      producer := .inr rfl
      key := .inr ⟨e.key, rfl, rfl⟩
      payload := .inr ⟨e.payload, rfl, rfl⟩ }

/-- What holds of every row that was read: the members of the payload are sorted, each key
once, and no known marker goes under the name of an unknown kind. -/
structure Sound (r : History) : Prop where
  normal : normalMembers r.payload = r.payload
  proper : r.kind.Proper

theorem sound_of_decode {setting : Setting} {body : Json} {r : History}
    (h : format.decode setting body.normalize = .ok r) : r.Sound := by
  obtain ⟨get, -, htold⟩ := decode_eq_ok_iff.mp h
  obtain ⟨marker, -, hkind⟩ := htold.kind
  refine ⟨?_, hkind ▸ Kind.proper_ofMarker marker⟩
  rcases htold.payload with ⟨-, hp⟩ | ⟨ms, -, hp⟩
  · rw [hp]
    rfl
  · rw [hp, Json.normalMembers_normalMembers]

/-- The event of a row whose payload is sorted is settled if no known marker goes under the name
of an unknown kind, and only then. -/
theorem settled_toEvent_iff {r : History} (normal : normalMembers r.payload = r.payload) :
    r.toEvent.settled = r.toEvent ↔ r.kind.Proper := by
  rw [← Kind.ofMarker_marker_iff]
  constructor
  · intro same
    exact congrArg Event.kind same
  · intro same
    simp only [Event.settled, toEvent, same, normal]

/-! ### One envelope both ways -/

/-- A text that an event may leave out, as a row has it: what the event has in its place is
what the row fills in, or else empty, and then it is filled in all the same. -/
theorem exists_tellsOptional {told : Option Json} {absent s : String}
    (h : TellsText absent told s) :
    ∃ o, TellsOptional told o ∧ ∀ d, (absent = d ∨ absent = "") →
      (o.filter (· ≠ "")).getD d = if s = "" then d else s := by
  rcases h with ⟨htold, rfl⟩ | htold
  · refine ⟨none, .inl ⟨.inl htold, rfl⟩, ?_⟩
    rintro d (rfl | rfl) <;> simp
  · exact ⟨some s, .inr ⟨s, htold, rfl⟩, fun d _ => getD_filter_some s d⟩

/-- What tells of an event tells of a row as well, if the time of creation can be one. -/
theorem exists_told {get : String → Option Json} {e : Event} (h : e.Told get)
    (hcreated : Blank (get "created_at") ∨ ∃ s, get "created_at" = some (.text s)) :
    ∃ r : History, r.Told get ∧ r.toEvent = e.filled := by
  obtain ⟨version, hversion, hversion'⟩ := exists_tellsOptional h.version
  obtain ⟨key, hkey, hkey'⟩ := exists_tellsOptional h.key
  have hcreated : ∃ o, TellsOptional (get "created_at") o := by
    rcases hcreated with hblank | ⟨s, hs⟩
    · exact ⟨none, .inl ⟨hblank, rfl⟩⟩
    · exact ⟨some s, .inr ⟨s, hs, rfl⟩⟩
  obtain ⟨createdAt, hcreated⟩ := hcreated
  refine ⟨⟨e.id, e.kind, version, some e.timestamp, createdAt, e.producer, key, e.payload⟩,
    ⟨h.id, h.kind, hversion, .inr ⟨_, h.timestamp, rfl⟩, hcreated, .inr h.producer, hkey,
      h.payload⟩, ?_⟩
  simp only [toEvent, Event.filled, hversion' Event.defaultVersion (.inl rfl),
    hkey' (Event.deriveKey e.kind e.payload) (.inr rfl)]
  rfl

/-- An object that is an event is also a row, unless its time of creation is neither a text
nor left blank, and the row tells of that event with an empty version and an empty key
filled in. Hence writing the event of a row and reading it as a row gives the event back, up
to the order of its payload and the name of its kind. With its payload sorted it comes back as
it was if no known marker goes under the name of an unknown kind, and only then; and that holds
of every row that was read. -/
theorem row_tells_live_event :
    (∀ (setting setting' : Setting) (members : Members) (e : Event),
      (Blank (last? "created_at" members) ∨
        ∃ s, last? "created_at" members = some (.text s)) →
      Event.format.decode setting (Json.object members).normalize = .ok e →
      ∃ r, format.decode setting' (Json.object members).normalize = .ok r ∧
        r.toEvent = e.filled) ∧
    (∀ (setting : Setting) (r : History),
      ∃ r', format.decode setting r.toEvent.toJson.normalize = .ok r' ∧
        r'.toEvent = r.toEvent.settled ∧
        (normalMembers r.payload = r.payload → (r'.toEvent = r.toEvent ↔ r.kind.Proper))) ∧
    ∀ (setting : Setting) (body : Json) (r : History),
      format.decode setting body.normalize = .ok r → r.Sound := by
  refine ⟨fun setting setting' members e hcreated h => ?_, fun setting r => ?_,
    fun setting body r h => sound_of_decode h⟩
  · obtain ⟨_, ⟨⟩, htold⟩ := Event.decode_eq_ok_iff.mp h
    obtain ⟨r, hr, hevent⟩ := exists_told htold hcreated
    exact ⟨r, decode_eq_ok_iff.mpr ⟨_, .object, hr⟩, hevent⟩
  · have hevent : r.toEvent.asRow.toEvent = r.toEvent.settled := by
      rw [toEvent_asRow, Event.filled_settled, filled_toEvent]
    refine ⟨_, decode_toJson setting r.toEvent, hevent, fun normal => ?_⟩
    rw [hevent]
    exact settled_toEvent_iff normal

/-- An envelope without a key and with an empty version, its payload out of order and its
time of creation null. -/
theorem row_tells_live_event_without_key :
    let members : Members :=
      [("payload", .object [("b", .integer 1), ("a", .null)]), ("event_id", .text "e"),
       ("event_type", .text "qa.passed"), ("version", .text ""), ("timestamp", .text ""),
       ("created_at", .null), ("producer", .text "qa")]
    let e : Event :=
      { id := "e", kind := .qaPassed, version := "", timestamp := "", producer := "qa", key := "",
        payload := [("a", .null), ("b", .integer 1)] }
    Event.format.decode .deferred (Json.object members).normalize = .ok e ∧
      ∃ r, format.decode .deferred (Json.object members).normalize = .ok r ∧
        r.toEvent = e.filled ∧
        ∃ r', format.decode .deferred r.toEvent.toJson.normalize = .ok r' ∧
          r'.toEvent = r.toEvent := by
  intro members e
  have hlive : Event.format.decode .deferred (Json.object members).normalize = .ok e := by rfl
  obtain ⟨r, hr, hevent⟩ :=
    row_tells_live_event.1 .deferred .deferred members e (.inl (.inr rfl)) hlive
  have hsound := row_tells_live_event.2.2 .deferred _ r hr
  obtain ⟨r', hr', -, hsame⟩ := row_tells_live_event.2.1 .deferred r
  exact ⟨hlive, r, hr, hevent, r', hr', (hsame hsound.normal).mpr hsound.proper⟩

/-- A row of an unknown kind that bears a known marker. No document is read as such a row. -/
def unknownBearsKnown : History where
  id := "e"
  kind := .other "plan.created"
  version := none
  timestamp := some "2026-02-07T21:00:00Z"
  createdAt := none
  producer := "meta_planner"
  key := some "k"
  payload := []

/-- Its event comes back with the known kind, and so not as it was. -/
theorem unknown_kind_comes_back_known :
    format.decode .direct unknownBearsKnown.toEvent.toJson.normalize =
        .ok { unknownBearsKnown with kind := .planCreated, version := some "1.0" } ∧
      ¬ ∃ r, format.decode .direct unknownBearsKnown.toEvent.toJson.normalize = .ok r ∧
        r.toEvent = unknownBearsKnown.toEvent := by
  have read := decode_toJson .direct unknownBearsKnown.toEvent
  have row : unknownBearsKnown.toEvent.asRow =
      { unknownBearsKnown with kind := .planCreated, version := some "1.0" } := by
    decide
  rw [row] at read
  refine ⟨read, ?_⟩
  rintro ⟨r, read', same⟩
  obtain rfl := Except.ok.inj (read.symm.trans read')
  exact absurd (congrArg Event.kind same) (by decide)

end History

end PipelineWatch
