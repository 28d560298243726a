import PipelineWatch.Proofs.Message.Grammar
import PipelineWatch.Proofs.Plan.Sort
import PipelineWatch.Store.Dispatch

/-!
When a row of the backlog is said to have happened. A row that has no timestamp is dated by its
creation, and so it comes before all events without an instant. A row that has one is dated by
that alone, even if it is empty and names no instant.
-/
namespace PipelineWatch

open Json (last? SpellsDocument)
open Record (Blank Tells tellsOptional_none tellsOptional_some tellsOptional_of_blank
  tellsOptional_text)
open Time (Instant)

/-! ### Rows -/

/-- A frame with a row, whose fields are told by `get`. -/
structure Frame.BringsRow (limit : Nat) (frame : List UInt8) (get : String → Option Json)
    (h : History) : Prop where
  short : frame.length ≤ limit
  spelled : ∃ members body, SpellsDocument (.object members) frame ∧
    last? "type" members = some (.text "history") ∧ last? "event" members = some body ∧
    Tells History.fieldNames body get
  told : h.Told get

theorem Frame.decode_eq_history_iff {limit : Nat} {frame : List UInt8} {h : History} :
    decode limit frame = .ok (.message (.history h)) ↔ ∃ get, BringsRow limit frame get h := by
  simp only [decode_eq_message_iff, Json.readTree_eq_ok_iff]
  constructor
  · rintro ⟨short, members, spelled, told⟩
    cases told with
    | history type body tells told =>
      exact ⟨_, short, ⟨members, _, spelled, type, body, tells⟩, told⟩
  · rintro ⟨get, short, ⟨members, body, spelled, type, event, tells⟩, told⟩
    exact ⟨short, members, spelled, .history type event tells told⟩

theorem History.timestamp_toEvent_of_none {h : History} {created : String}
    (absent : h.timestamp = none) (made : h.createdAt = some created) :
    h.toEvent.timestamp = created := by
  rw [toEvent, absent, made]
  rfl

theorem History.timestamp_toEvent_of_some {h : History} {s : String}
    (given : h.timestamp = some s) : h.toEvent.timestamp = s := by
  rw [toEvent, given]
  rfl

/-! ### Their place -/

/-- The events are those with an instant and then those without one, and `e` is among the
former. -/
def Plan.AheadOfUntimed (e : Event) (events : List Event) : Prop :=
  ∃ timed untimed, events = timed ++ untimed ∧ e ∈ timed ∧ (∀ a ∈ timed, a.instant? ≠ none) ∧
    ∀ b ∈ untimed, b.instant? = none

theorem Plan.exists_timed_untimed {events : List Event}
    (order : events.Pairwise fun a b => a.instant? = none → b.instant? = none) :
    ∃ timed untimed, events = timed ++ untimed ∧ (∀ a ∈ timed, a.instant? ≠ none) ∧
      ∀ b ∈ untimed, b.instant? = none := by
  induction order with
  | nil => exact ⟨[], [], rfl, by simp, by simp⟩
  | @cons e es behind order ih =>
    by_cases untimed : e.instant? = none
    · refine ⟨[], e :: es, rfl, by simp, ?_⟩
      rw [List.forall_mem_cons]
      exact ⟨untimed, fun b hb => behind b hb untimed⟩
    · obtain ⟨front, back, rfl, hfront, hback⟩ := ih
      refine ⟨e :: front, back, rfl, ?_, hback⟩
      rw [List.forall_mem_cons]
      exact ⟨untimed, hfront⟩

theorem Plan.aheadOfUntimed_sortByTime {e : Event} {events : List Event} (mem : e ∈ events)
    (timed : e.instant? ≠ none) : AheadOfUntimed e (sortByTime events) := by
  obtain ⟨front, back, split, hfront, hback⟩ :=
    exists_timed_untimed ((pairwise_sortByTime events).imp untimed_of_not_ahead)
  have here : e ∈ front ++ back := by
    rw [← split]
    exact (perm_sortByTime events).mem_iff.mpr mem
  refine ⟨front, back, split, ?_, hfront, hback⟩
  exact (List.mem_append.mp here).resolve_right fun last => timed (hback e last)

theorem Stores.dispatch_row {limit : Nat} {frame : List UInt8} {get : String → Option Json}
    {h : History} (row : Frame.BringsRow limit frame get h) {s : Stores}
    (fresh : s.events.contains h.id = false) :
    s.dispatch limit frame =
      (.historyAppended h.id,
        { s with events := { s.events with list := s.events.list ++ [h.toEvent] } }) := by
  have id : h.toEvent.id = h.id := rfl
  rw [dispatch, Frame.decode_eq_history_iff.mpr ⟨get, row⟩]
  simp [apply, Store.Events.pushHistory, id, fresh]

/-- What is known of the event of a row that was made at `created`, which is the instant `t`. -/
structure Stores.DatesRow (limit : Nat) (frame : List UInt8) (get : String → Option Json)
    (h : History) (created : String) (t : Instant) : Prop where
  /-- Without a timestamp the row is dated by its creation, and comes before all events without
  an instant. -/
  blank : Blank (get "timestamp") → h.toEvent.timestamp = created ∧ h.toEvent.instant? = some t ∧
    ∀ events, h.toEvent ∈ events → Plan.AheadOfUntimed h.toEvent (Plan.sortByTime events)
  /-- A timestamp that is there stands, empty or not. -/
  text : ∀ s, get "timestamp" = some (.text s) →
    h.toEvent.timestamp = s ∧ h.toEvent.instant? = Instant.parse? s
  stored : ∀ s : Stores, s.events.contains h.id = false → s.dispatch limit frame =
    (.historyAppended h.id,
      { s with events := { s.events with list := s.events.list ++ [h.toEvent] } })

/-- **A row without a timestamp is dated by its creation.** -/
theorem Stores.row_dated_by_creation {limit : Nat} {frame : List UInt8}
    {get : String → Option Json} {h : History} (row : Frame.BringsRow limit frame get h)
    {created : String} (createdAt : get "created_at" = some (.text created)) {t : Instant}
    (read : Instant.parse? created = some t) : DatesRow limit frame get h created t where
  blank := by
    intro blank
    have made := row.told.createdAt
    rw [createdAt, tellsOptional_text] at made
    have dated := History.timestamp_toEvent_of_none
      ((tellsOptional_of_blank blank).mp row.told.timestamp) made
    have timed : h.toEvent.instant? = some t := by rw [Event.instant?, dated, read]
    refine ⟨dated, timed, fun events mem => Plan.aheadOfUntimed_sortByTime mem ?_⟩
    rw [timed]
    exact Option.some_ne_none t
  text := by
    intro s text
    have given := row.told.timestamp
    rw [text, tellsOptional_text] at given
    have dated := History.timestamp_toEvent_of_some given
    exact ⟨dated, by rw [Event.instant?, dated]⟩
  stored := fun _ => dispatch_row row

/-- A row with null for its timestamp. -/
theorem Stores.row_dated_by_creation_null :
    let frame := Text.Utf8.ofString "\x7b\"type\": \"history\", \"event\": \x7b\"event_id\": \"h\",
      \"event_type\": \"plan.created\", \"timestamp\": null,
      \"created_at\": \"2026-02-07T21:00:00\"\x7d\x7d"
    ∃ get h, Frame.BringsRow 1000 frame get h ∧ Blank (get "timestamp") ∧
      get "created_at" = some (.text "2026-02-07T21:00:00") ∧
      DatesRow 1000 frame get h "2026-02-07T21:00:00" ⟨1770498000, 0⟩ := by
  intro frame
  have decoded : Frame.decode 1000 frame = .ok (.message (.history
      ⟨"h", .planCreated, none, none, some "2026-02-07T21:00:00", "", none, []⟩)) := by
    decide +kernel
  obtain ⟨get, row⟩ := Frame.decode_eq_history_iff.mp decoded
  have createdAt := tellsOptional_some.mp row.told.createdAt
  exact ⟨get, _, row, tellsOptional_none.mp row.told.timestamp, createdAt,
    row_dated_by_creation row createdAt (by decide +kernel)⟩

/-- A row with an empty timestamp is not dated by its creation, although an empty version or an
empty key counts as none. -/
theorem Stores.empty_timestamp_hides_creation :
    ¬ ∀ (limit : Nat) (frame : List UInt8) (get : String → Option Json) (h : History)
        (created : String) (t : Instant), Frame.BringsRow limit frame get h →
      Blank (get "timestamp") ∨ get "timestamp" = some (.text "") →
      get "created_at" = some (.text created) → Instant.parse? created = some t →
      h.toEvent.timestamp = created ∧ h.toEvent.instant? = some t := by
  intro filled
  have decoded : Frame.decode 1000 (Text.Utf8.ofString "\x7b\"type\": \"history\", \"event\":
      \x7b\"event_id\": \"h\", \"event_type\": \"plan.created\", \"timestamp\": \"\",
      \"created_at\": \"2026-02-07T21:00:00Z\"\x7d\x7d") = .ok (.message (.history
      ⟨"h", .planCreated, none, some "", some "2026-02-07T21:00:00Z", "", none, []⟩)) := by
    decide +kernel
  obtain ⟨get, row⟩ := Frame.decode_eq_history_iff.mp decoded
  have dated := filled _ _ get _ "2026-02-07T21:00:00Z" ⟨1770498000, 0⟩ row
    (.inr (tellsOptional_some.mp row.told.timestamp)) (tellsOptional_some.mp row.told.createdAt)
    (by decide +kernel)
  exact absurd dated.1 (by decide)

end PipelineWatch
