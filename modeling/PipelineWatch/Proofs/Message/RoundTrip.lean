import PipelineWatch.Proofs.Event.Kind
import PipelineWatch.Proofs.Json.Writing
import PipelineWatch.Proofs.Message.Grammar

/-!
Messages survive their own text. What a frame was decoded to is written and decoded to the
same message again, and so is every message that could have been, unless it has fractions
or its document nests too deep.
-/
namespace PipelineWatch

open Json (Members last? lookup normalMembers Bounded Floatless)
open Record (Tells TellsText TellsTextOrNull TellsOptional TellsObject TellsCount)

namespace Message

/-! ### The parts of a message -/

/-- The kind of event, of the messages that have one. -/
def kind? : Message → Option Kind
  | .event e => some e.kind
  | .history h => some h.kind
  | .approval _ | .approvalDecided _ => none

/-- The payload of an event, or the context of a request. -/
def payload : Message → Members
  | .event e => e.payload
  | .history h => h.payload
  | .approval a | .approvalDecided a => a.context

/-- The count of a request. -/
def files? : Message → Option Nat
  | .event _ | .history _ => none
  | .approval a | .approvalDecided a => some a.files

/-- What holds of every message in memory: the members are sorted, each key once, and whole
numbers have 64 bits. -/
structure Sound (m : Message) : Prop where
  normal : normalMembers m.payload = m.payload
  bounded : (Json.object m.payload).Bounded
  files : ∀ n ∈ m.files?, n < 2 ^ 64

/-- What lets a message through its text: no fractions, no known marker under the name of
an unknown kind, and no more containers inside each other than are read. -/
structure Portable (m : Message) : Prop where
  floatless : (Json.object m.payload).Floatless
  proper : ∀ k ∈ m.kind?, k.Proper
  shallow : m.toJson.depth ≤ Json.maxDepth

/-- What may stand as a field of the body of a message. -/
inductive Part (m : Message) : Json → Prop where
  | null : Part m .null
  | text (s : String) : Part m (.text s)
  | files {n : Nat} : n ∈ m.files? → Part m (.integer n)
  | payload : Part m (.object m.payload)

theorem Part.ofText? {m : Message} (o : Option String) : Part m (Json.ofText? o) := by
  cases o with
  | none => exact .null
  | some s => exact .text s

/-- The document of a message: its type, and a body of such parts. -/
theorem toJson_parts (m : Message) :
    ∃ ms : Members, m.toJson = .object [("type", .text m.tag.name), (m.tag.bodyKey, .object ms)] ∧
      ∀ p ∈ ms, m.Part p.2 := by
  cases m with
  | event e =>
    refine ⟨_, rfl, ?_⟩
    simp only [List.forall_mem_cons]
    exact ⟨.text _, .text _, .text _, .text _, .text _, .text _, .payload, by simp⟩
  | history h =>
    refine ⟨_, rfl, ?_⟩
    simp only [List.forall_mem_cons]
    exact ⟨.text _, .text _, .ofText? _, .ofText? _, .ofText? _, .text _, .ofText? _, .payload,
      by simp⟩
  | approval a | approvalDecided a =>
    refine ⟨_, rfl, ?_⟩
    simp only [List.forall_mem_cons]
    exact ⟨.text _, .text _, .text _, .files rfl, .text _, .payload, .ofText? _, .ofText? _,
      by simp⟩

/-- The ends of the document are those of the payload, the count and some texts. -/
theorem mem_leaves_toJson {m : Message} {l : Json} (h : l ∈ m.toJson.leaves) :
    l = .null ∨ (∃ s, l = .text s) ∨ (∃ n ∈ m.files?, l = .integer n) ∨
      l ∈ (Json.object m.payload).leaves := by
  obtain ⟨ms, heq, hparts⟩ := m.toJson_parts
  rw [heq, Json.mem_leaves_object] at h
  simp only [List.mem_cons, List.not_mem_nil, or_false, exists_eq_or_imp, exists_eq_left] at h
  rcases h with h | h
  · exact .inr (.inl ⟨_, List.mem_singleton.mp h⟩)
  · obtain ⟨⟨key, v⟩, hp, hl⟩ := Json.mem_leaves_object.mp h
    cases hparts _ hp with
    | null => exact .inl (List.mem_singleton.mp hl)
    | text s => exact .inr (.inl ⟨s, List.mem_singleton.mp hl⟩)
    | files hn => exact .inr (.inr (.inl ⟨_, hn, List.mem_singleton.mp hl⟩))
    | payload => exact .inr (.inr (.inr hl))

theorem Sound.bounded_toJson {m : Message} (h : m.Sound) : m.toJson.Bounded := by
  intro n hn
  rcases mem_leaves_toJson hn with h' | ⟨s, h'⟩ | ⟨k, hk, h'⟩ | h'
  · cases h'
  · cases h'
  · cases h'
    have hlt := h.files k hk
    omega
  · exact h.bounded n h'

theorem Portable.floatless_toJson {m : Message} (h : m.Portable) : m.toJson.Floatless := by
  intro x hx
  rcases mem_leaves_toJson hx with h' | ⟨s, h'⟩ | ⟨k, hk, h'⟩ | h'
  · cases h'
  · cases h'
  · cases h'
  · exact h.floatless x h'

/-- The document nests two deeper than the payload. -/
theorem depth_toJson_le {m : Message} {d : Nat} (h : (Json.object m.payload).depth ≤ d) :
    m.toJson.depth ≤ d + 2 := by
  obtain ⟨ms, heq, hparts⟩ := m.toJson_parts
  rw [heq, Json.depth_object_le_iff]
  simp only [List.forall_mem_cons]
  refine ⟨Nat.zero_le _, Json.depth_object_le_iff.mpr fun ⟨key, v⟩ hp => ?_, by simp⟩
  cases hparts _ hp with
  | null | text | files => exact Nat.zero_le _
  | payload => exact h

/-! ### What a message tells -/

/-- The document of a message tells the message. -/
theorem told_toJson {m : Message} (hs : m.Sound) (hp : ∀ k ∈ m.kind?, k.Proper) :
    ∃ members, m.toJson = .object members ∧ m.Told members := by
  have optional : ∀ {o : Option String}, TellsOptional (some (Json.ofText? o)) o := by
    intro o
    cases o with
    | none => exact .inl ⟨.inr rfl, rfl⟩
    | some s => exact .inr ⟨s, rfl, rfl⟩
  have object : TellsObject (some (.object m.payload)) m.payload :=
    .inr ⟨_, rfl, hs.normal.symm⟩
  cases m with
  | event e =>
    have hk := Kind.ofMarker_marker (hp e.kind rfl)
    exact ⟨_, rfl, .event rfl rfl .object
      ⟨rfl, ⟨_, rfl, hk.symm⟩, .inr rfl, rfl, rfl, .inr rfl, object⟩⟩
  | history h =>
    have hk := Kind.ofMarker_marker (hp h.kind rfl)
    exact ⟨_, rfl, .history rfl rfl .object
      ⟨rfl, ⟨_, rfl, hk.symm⟩, optional, optional, optional, .inr rfl, optional, object⟩⟩
  | approval a =>
    exact ⟨_, rfl, .approval rfl rfl .object
      ⟨rfl, .inr rfl, .inr rfl, .inr (.inl rfl), .inr rfl, object, optional, optional⟩⟩
  | approvalDecided a =>
    exact ⟨_, rfl, .approvalDecided rfl rfl .object
      ⟨rfl, .inr rfl, .inr rfl, .inr (.inl rfl), .inr rfl, object, optional, optional⟩⟩

/-- What is told of a field is a part of the body. -/
theorem mem_of_tells {names : List String} {body v : Json} {get : String → Option Json}
    (ht : Tells names body get) {name : String} (hv : get name = some v) :
    (∀ {d}, body.depth ≤ d + 1 → v.depth ≤ d) ∧ (body.Bounded → v.Bounded) := by
  cases ht with
  | object =>
    have hm := Json.mem_of_last? hv
    exact ⟨fun hd => Json.depth_object_le_iff.mp hd _ hm,
      fun hb n hn => hb n (Json.mem_leaves_object.mpr ⟨_, hm, hn⟩)⟩
  | array =>
    have hm := (List.of_mem_zip (Json.mem_of_lookup hv)).2
    exact ⟨fun hd => Json.depth_array_le_iff.mp hd _ hm,
      fun hb n hn => hb n (Json.mem_leaves_array.mpr ⟨_, hm, hn⟩)⟩

/-- What was told of the members is in normal form, and no deeper than the body it was
told in. -/
theorem normal_of_tells {names : List String} {body : Json} {get : String → Option Json}
    (ht : Tells names body get) {name : String} {ms : Members} (h : TellsObject (get name) ms)
    (hb : body.Bounded) {d : Nat} (hd : body.depth ≤ d + 2) :
    normalMembers ms = ms ∧ (Json.object ms).Bounded ∧ (Json.object ms).depth ≤ d + 1 := by
  rcases h with ⟨-, rfl⟩ | ⟨ns, hget, rfl⟩
  · exact ⟨rfl, fun n hn => by simp [Json.mem_leaves_object] at hn,
      Json.depth_object_le_iff.mpr (by simp)⟩
  · obtain ⟨hdepth, hbounded⟩ := mem_of_tells ht hget
    rw [← Json.normalize_object]
    exact ⟨Json.normalMembers_normalMembers ns, (hbounded hb).normalize,
      Json.depth_normalize_le (hdepth hd)⟩

theorem files_of_tells {names : List String} {body : Json} {get : String → Option Json}
    (ht : Tells names body get) {name : String} {n : Nat} (h : TellsCount (get name) n)
    (hb : body.Bounded) : n < 2 ^ 64 := by
  rcases h with ⟨-, rfl⟩ | hget | ⟨s, -, ds, -, -, -, -, hlt⟩
  · decide
  · have hn := ((mem_of_tells ht hget).2 hb) n (List.mem_singleton.mpr rfl)
    omega
  · exact hlt

/-- A message that was told is one in memory; it nests no deeper than the document that it
was told in, which has three containers at least. -/
theorem Told.sound {members : Members} {m : Message} (h : m.Told members)
    (hb : (Json.object members).Bounded) {d : Nat} (hd : (Json.object members).depth ≤ d + 3) :
    m.Sound ∧ (∀ k ∈ m.kind?, k.Proper) ∧ m.toJson.depth ≤ d + 3 := by
  have body : ∀ {key : String} {body : Json}, last? key members = some body →
      body.Bounded ∧ body.depth ≤ d + 2 := by
    intro key body hbody
    obtain ⟨hdepth, hbounded⟩ := mem_of_tells (show Tells [] (.object members) _ from .object) hbody
    exact ⟨hbounded hb, hdepth hd⟩
  cases h with
  | event _ hbody ht htold | history _ hbody ht htold =>
    obtain ⟨hbody, hdepth⟩ := body hbody
    obtain ⟨hnormal, hpayload, hshallow⟩ := normal_of_tells ht htold.payload hbody hdepth
    obtain ⟨marker, -, hkind⟩ := htold.kind
    exact ⟨⟨hnormal, hpayload, by simp [files?]⟩,
      by rintro _ ⟨rfl⟩; exact hkind ▸ Kind.proper_ofMarker marker, depth_toJson_le hshallow⟩
  | approval _ hbody ht htold | approvalDecided _ hbody ht htold =>
    obtain ⟨hbody, hdepth⟩ := body hbody
    obtain ⟨hnormal, hcontext, hshallow⟩ := normal_of_tells ht htold.context hbody hdepth
    have hfiles := files_of_tells ht htold.files hbody
    exact ⟨⟨hnormal, hcontext, by rintro _ ⟨rfl⟩; exact hfiles⟩, by simp [kind?],
      depth_toJson_le hshallow⟩

end Message

namespace Frame

open Text.Utf8 (ofString)

theorem decode_encode {m : Message} (hs : m.Sound) (hp : m.Portable) {limit : Nat}
    (hlen : (ofString (encode m)).length ≤ limit) :
    decode limit (ofString (encode m)) = .ok (.message m) := by
  obtain ⟨members, heq, htold⟩ := Message.told_toJson hs hp.proper
  have hread := Json.readTree_compact hp.shallow hs.bounded_toJson hp.floatless_toJson
  exact decode_eq_message_iff.mpr ⟨hlen, members, heq ▸ hread, htold⟩

/-- What a frame was decoded to is a message that its own text brings back, fractions
aside. -/
theorem sound_of_decode {limit : Nat} {bytes : List UInt8} {m : Message}
    (h : decode limit bytes = .ok (.message m)) (hf : (Json.object m.payload).Floatless) :
    m.Sound ∧ m.Portable := by
  obtain ⟨-, members, hread, htold⟩ := decode_eq_message_iff.mp h
  obtain ⟨-, hspells, -⟩ := Json.readTree_eq_ok_iff.mp hread
  obtain ⟨hsound, hproper, hshallow⟩ :=
    htold.sound hspells.bounded (d := Json.maxDepth - 3) hspells.depth_le
  exact ⟨hsound, hf, hproper, hshallow⟩

/-- The text of a message without fractions is decoded to the message, if it is no longer
than the limit: for every message in memory that nests no deeper than is read and passes no
known marker off as unknown, and so for every message that a frame was decoded to. -/
theorem round_trip :
    (∀ (m : Message) (limit : Nat), m.Sound → m.Portable →
      (ofString (encode m)).length ≤ limit →
      decode limit (ofString (encode m)) = .ok (.message m)) ∧
    ∀ (limit limit' : Nat) (bytes : List UInt8) (m : Message),
      decode limit bytes = .ok (.message m) → (Json.object m.payload).Floatless →
      (ofString (encode m)).length ≤ limit' →
      decode limit' (ofString (encode m)) = .ok (.message m) := by
  refine ⟨fun m limit hs hp => decode_encode hs hp, fun limit limit' bytes m hd hf => ?_⟩
  obtain ⟨hs, hp⟩ := sound_of_decode hd hf
  exact decode_encode hs hp

/-- A row of an unknown kind, with an empty version and control characters in its texts and
keys; and a request that came as an array. -/
theorem round_trip_row_and_request :
    let row : Message := .history
      { id := "é\u0001", kind := .other "a:b", version := some "", timestamp := none,
        createdAt := some "\n", producer := "", key := none,
        payload := [("\t\"", .array [.integer (-1), .null]), ("k", .object [("", .text "😀")])] }
    let request : Message := .approval
      { id := "a", planId := "", branch := "b", files := 7, reasoning := "",
        context := [("k", .integer 2)], decision := none, reviewer := none }
    let frame := ofString
      "\x7b\"type\":\"approval\",\"approval\":[\"a\",null,\"b\",\" 7 \",\"\",\x7b\"k\":2\x7d]\x7d"
    decode 1000 (ofString (encode row)) = .ok (.message row) ∧
      decode 1000 frame = .ok (.message request) ∧
      decode 1000 (ofString (encode request)) = .ok (.message request) := by
  intro row request frame
  have hsound : row.Sound := by
    refine ⟨by rfl, fun n hn => ?_, by simp [row, Message.files?]⟩
    simp [row, Message.payload, Json.leaves, Json.membersLeaves, Json.itemsLeaves] at hn
    omega
  have hportable : row.Portable := by
    refine ⟨fun x hx => ?_, ?_, by decide⟩
    · simp [row, Message.payload, Json.leaves, Json.membersLeaves, Json.itemsLeaves] at hx
    · rintro _ ⟨rfl⟩ s ⟨rfl⟩
      decide
  have hframe : decode 1000 frame = .ok (.message request) := by rfl
  have hfloatless : (Json.object request.payload).Floatless := by
    intro x hx
    simp [request, Message.payload, Json.leaves, Json.membersLeaves] at hx
  exact ⟨round_trip.1 row 1000 hsound hportable (by decide +kernel), hframe,
    round_trip.2 1000 1000 frame request hframe hfloatless (by decide +kernel)⟩

end Frame

end PipelineWatch
