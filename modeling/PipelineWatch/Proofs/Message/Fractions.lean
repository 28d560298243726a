import PipelineWatch.Proofs.Event.Key
import PipelineWatch.Proofs.Event.Payload
import PipelineWatch.Proofs.Json.Reread
import PipelineWatch.Proofs.Message.RoundTrip

/-!
Rows with fractions. A frame in the layout of the producers is decoded to the row that it was
written for, but that each fraction is the one that is read from its text. So the key that
is derived from a row is the producer's where no fraction was changed on the way, and only
there, as far as the hash tells its messages.
-/
namespace PipelineWatch

open Decimal (Binary64 Layout)
open Digest.Sha256 (Collide)
open Json (Members Style Kept ReadAgain reread membersMapFloats)
open Text.Utf8 (ofString)

namespace History

/-- The row with each fraction of its payload as it is read from its text. -/
def readAgain (h : History) : History :=
  { h with payload := membersMapFloats reread h.payload }

theorem object_payload_readAgain (h : History) :
    Json.object h.readAgain.payload = (Json.object h.payload).mapFloats reread := rfl

theorem toJson_readAgain (h : History) :
    (Message.history h.readAgain).toJson = (Message.history h).toJson.mapFloats reread := by
  have optional : ∀ o : Option String, (Json.ofText? o).mapFloats reread = Json.ofText? o := by
    intro o
    cases o <;> rfl
  simp only [Message.toJson, toJson, Json.mapFloats, membersMapFloats, optional]
  rfl

theorem sound_readAgain {h : History} (hs : (Message.history h).Sound) :
    (Message.history h.readAgain).Sound := by
  have hsorted : Json.normalMembers h.payload = h.payload := hs.normal
  have hnormal := Json.normalize_mapFloats (f := reread) (.object h.payload)
  rw [Json.normalize_object h.payload, hsorted, ← object_payload_readAgain,
    Json.normalize_object] at hnormal
  exact ⟨Json.object.inj hnormal, hs.bounded.mapFloats, by simp [Message.files?]⟩

theorem finite_toJson {h : History} (hf : (Json.object h.payload).Finite) :
    (Message.history h).toJson.Finite := by
  intro x hx
  rcases Message.mem_leaves_toJson hx with h' | ⟨s, h'⟩ | ⟨n, hn, h'⟩ | h'
  · cases h'
  · cases h'
  · cases h'
  · exact hf x h'

/-- The payload stands two deep in the document of its row. -/
theorem depth_payload_le {h : History} {d : Nat} (hd : (Message.history h).toJson.depth ≤ d + 2) :
    (Json.object h.payload).depth ≤ d := by
  have hbody := Json.depth_object_le_iff.mp hd ("event", h.toJson)
    (List.mem_cons_of_mem _ (List.mem_cons_self ..))
  exact Json.depth_object_le_iff.mp hbody ("payload", .object h.payload) (by simp)

/-- Whether a row tells no key of its own. -/
def Keyless (h : History) : Prop :=
  h.key.filter (· ≠ "") = none

theorem key_toEvent {h : History} (hk : h.Keyless) :
    h.toEvent.key = Event.deriveKey h.kind h.payload := by
  show (h.key.filter (· ≠ "")).getD _ = _
  rw [hk]
  rfl

/-- What is left of the row `h` in the row `r` that its text is decoded to. -/
structure Received (h r : History) : Prop where
  /-- The rows differ in the fractions of the payload, and only if one is read as another, -/
  row : r = h.readAgain
  same : r = h ↔ Kept (.object h.payload)
  /-- and so do the texts that are hashed. -/
  text : Event.canonicalText (.object r.payload) = Event.canonicalText (.object h.payload) ↔
    Kept (.object h.payload)
  /-- A key that is derived from the row received is that of the row written, if they do not, -/
  key : h.Keyless → Kept (.object h.payload) →
    r.toEvent.key = Event.deriveKey h.kind h.payload
  /-- and only then, or else two texts collide. -/
  collide : h.Keyless → r.toEvent.key = Event.deriveKey h.kind h.payload →
    Kept (.object h.payload) ∨
      Collide (ofString (Event.canonicalText (.object r.payload)))
        (ofString (Event.canonicalText (.object h.payload))) ∨
      Collide (ofString (Event.keyText r.kind r.payload))
        (ofString (Event.keyText h.kind h.payload))

theorem received_readAgain {h : History} (hs : (Message.history h).Sound)
    (hf : (Json.object h.payload).Finite) : Received h h.readAgain := by
  have hsame : h.readAgain.payload = h.payload ↔ Kept (.object h.payload) := by
    rw [← Json.mapFloats_reread_eq_iff, ← object_payload_readAgain, Json.object.injEq]
  have hrow : h.readAgain = h ↔ Kept (.object h.payload) := by
    rw [← hsame]
    exact ⟨congrArg payload, congrArg fun p => { h with payload := p }⟩
  have htext : Event.canonicalText (.object h.readAgain.payload) =
      Event.canonicalText (.object h.payload) → Kept (.object h.payload) := by
    intro heq
    have hfinite : (Json.object h.readAgain.payload).Finite :=
      hf.mapFloats fun x hx => (Json.reread_finite hx).1
    have hnormal := Event.canonicalText_injective hfinite hf heq
    have hsorted : Json.normalMembers h.payload = h.payload := hs.normal
    have hsorted' : Json.normalMembers h.readAgain.payload = h.readAgain.payload :=
      (sound_readAgain hs).normal
    rw [hsorted, hsorted'] at hnormal
    exact hsame.mp hnormal
  refine ⟨rfl, hrow, ⟨htext, fun hk => by rw [hsame.mpr hk]⟩, fun hkey hk => ?_, fun hkey heq => ?_⟩
  · rw [hrow.mpr hk, key_toEvent hkey]
  · have hkeyless : h.readAgain.Keyless := hkey
    rw [key_toEvent hkeyless] at heq
    rcases Event.hashText_eq heq with hkeys | hcollide
    · obtain ⟨-, hhash⟩ := Event.keyText_injective hkeys
      exact (Event.hashText_eq hhash).imp htext .inl
    · exact .inr (.inr hcollide)

end History

namespace Frame

/-- **A row is decoded from the text of its producer up to the fractions that the reader
rounds**, and a key derived from it is the producer's where there are none. The payload comes
out the same when its text stands alone. Every fraction is read as some number of its sign,
and as itself if the reader rounds once. -/
theorem decode_written_fractions {h : History} {style : Style} {limit : Nat}
    (hs : (Message.history h).Sound) (hk : h.kind.Proper) (hf : (Json.object h.payload).Finite)
    (hdepth : (Message.history h).toJson.depth ≤ Json.maxDepth) (hstyle : style.Readable)
    (hnumbers : style.numbers = .producer)
    (hlen : (ofString (Json.write style (Message.history h).toJson)).length ≤ limit) :
    (∀ x, .float x ∈ Json.leaves (.object h.payload) → ReadAgain x) ∧
      ∃ r, decode limit (ofString (Json.write style (Message.history h).toJson)) =
          .ok (.message (.history r)) ∧
        Event.readPayload (Json.write style (.object h.payload)) = .ok r.payload ∧
        History.Received h r := by
  have hsound := History.sound_readAgain hs
  have hproper : ∀ k ∈ (Message.history h.readAgain).kind?, k.Proper := by
    rintro _ ⟨rfl⟩
    exact hk
  have hframe := Json.spellsDocument_reread hstyle hnumbers hdepth hs.bounded_toJson
    (History.finite_toJson hf)
  have hshallow : (Json.object h.payload).depth ≤ Json.maxDepth - 2 :=
    History.depth_payload_le hdepth
  have hpayload := Json.spellsDocument_reread hstyle hnumbers
    (hshallow.trans (Nat.sub_le ..)) hs.bounded hf
  obtain ⟨members, heq, htold⟩ := Message.told_toJson hsound hproper
  rw [← History.toJson_readAgain, heq] at hframe
  refine ⟨fun x hx => Json.readAgain (hf x hx), h.readAgain, ?_, ?_,
    History.received_readAgain hs hf⟩
  · exact decode_eq_message_iff.mpr ⟨hlen, members, Json.readTree_eq_ok_iff.mpr hframe, htold⟩
  · exact Event.readPayload_eq_ok_iff.mpr ⟨_, hpayload, hsound.normal.symm⟩

/-- A row without a key, with fractions in both notations: all of them are kept, and so is the
key. -/
theorem decode_written_fractions_kept :
    let h : History :=
      { id := "e", kind := .qaPassed, version := none, timestamp := none, createdAt := none,
        producer := "qa", key := none,
        payload := [("a", .array [.float ⟨0x3FB999999999999A⟩, .float ⟨0xBE90C6F7A0B5ED8D⟩]),
          ("b", .integer 3)] }
    Kept (.object h.payload) ∧
      decode 1000 (ofString (Json.write .producer (Message.history h).toJson)) =
        .ok (.message (.history h)) ∧
      Event.readPayload "\x7b\"a\": [0.1, -2.5e-07], \"b\": 3\x7d" = .ok h.payload ∧
      h.toEvent.key = Event.deriveKey .qaPassed h.payload := by
  intro h
  have hfloats : ∀ x, .float x ∈ Json.leaves (.object h.payload) →
      x = ⟨0x3FB999999999999A⟩ ∨ x = ⟨0xBE90C6F7A0B5ED8D⟩ := by
    intro x hx
    simpa [h, Json.leaves, Json.membersLeaves, Json.itemsLeaves] using hx
  have hbounded : (Json.object h.payload).Bounded := by
    intro n hn
    simp [h, Json.leaves, Json.membersLeaves, Json.itemsLeaves] at hn
    omega
  have hfinite : (Json.object h.payload).Finite := by
    intro x hx
    rcases hfloats x hx with rfl | rfl <;> decide
  have hsound : (Message.history h).Sound := ⟨by rfl, hbounded, by simp [Message.files?]⟩
  have hproper : h.kind.Proper := by
    rintro s ⟨⟩
  have hlen : (ofString (Json.write .producer (Message.history h).toJson)).length ≤ 1000 := by
    decide +kernel
  obtain ⟨hread, r, hr, hpayload, hreceived⟩ := decode_written_fractions hsound hproper hfinite
    (by decide) Style.readable_producer rfl hlen
  have hkept : Kept (.object h.payload) := by
    intro x hx
    obtain ⟨hdigits, hlt, hpower⟩ : (Json.collected x).digits = (Json.collected x).digits * 2 ^ 0 ∧
        (Json.collected x).digits < 2 ^ 53 ∧ (Json.collected x).power.natAbs ≤ 22 := by
      rcases hfloats x hx with rfl | rfl <;> decide +kernel
    exact (hread x hx).short _ 0 hdigits hlt hpower
  have htext : Json.write .producer (.object h.payload) =
      "\x7b\"a\": [0.1, -2.5e-07], \"b\": 3\x7d" := by decide +kernel
  rw [hreceived.same.mpr hkept] at hr hpayload hreceived
  rw [htext] at hpayload
  exact ⟨hkept, hr, hpayload, hreceived.key rfl hkept⟩

/-- A number that the reader rounds twice. The payload is decoded to the next number, and its
hashed text and key are others than the producer's. -/
theorem decode_written_fractions_changed :
    let x : Binary64 := ⟨0x3FED26CFDA272031⟩
    let y : Binary64 := ⟨0x3FED26CFDA272032⟩
    let p : Members := [("score", .float x)]
    let q : Members := [("score", .float y)]
    x.isFinite = true ∧ Layout.producer.write x = "0.9109877835080679" ∧
      Event.readPayload "\x7b\"score\": 0.9109877835080679\x7d" = .ok q ∧ q ≠ p ∧
      Event.canonicalText (.object q) ≠ Event.canonicalText (.object p) ∧
      Event.deriveKey .qaPassed q ≠ Event.deriveKey .qaPassed p := by
  decide +kernel

end Frame

end PipelineWatch
