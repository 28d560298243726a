import PipelineWatch.Event.Key
import PipelineWatch.Proofs.Json.Reading
import PipelineWatch.Proofs.Json.Reordered

/-!
Payloads and the ways of writing them. A payload is read from every text of an object, with
its members sorted, and the order of members, blanks and escapes leave no trace in what is
read; so the key that is derived from it does not know of them either.
-/
namespace PipelineWatch

open Json (Members Reordered Distinct SpellsDocument normalMembers)
open Text.Utf8 (ofString)

namespace Record

open Json (Bytes readValue maxDepth)
open Json.Byte (openBrace openBracket)

/-- An object is read as any value is, and sorted. -/
theorem takeObject_eq_ok_iff {input rest : Bytes} {members : Members} :
    takeObject input = .ok (members, rest) ↔
      ∃ ms, readValue maxDepth input = .ok (.object ms, rest) ∧ members = normalMembers ms := by
  have hbracket : openBrace ≠ openBracket := by decide
  have hvalue : readValue maxDepth = Json.readWith (some (readValue (maxDepth - 1))) := rfl
  rw [takeObject, hvalue, Json.readWith]
  cases Json.skipBlanks input with
  | nil => simp
  | cons b tail =>
    by_cases hb : b = openBrace
    · simp only [hb, if_true, if_neg hbracket]
      cases Json.readMembers (readValue (maxDepth - 1)) (openBrace :: tail) true [] tail with
      | error stop => simp
      | ok r => simp [normalMembers, and_comm, eq_comm]
    · -- neither an array nor a value by itself is an object
      refine iff_of_false (by simp [hb]) ?_
      rintro ⟨ms, hr, -⟩
      simp only [if_neg hb] at hr
      split at hr
      · cases hi : Json.readItems (readValue (maxDepth - 1)) (b :: tail) true [] tail <;>
          simp [hi] at hr
      · obtain ⟨bs, hs, -⟩ := Json.exists_spelled_of_readScalar hr
        have hdepth := hs.depth_bounded.1
        simp [Json.depth] at hdepth

end Record

namespace Event

/-- A payload is read from the texts of objects and from no others. -/
theorem readPayload_eq_ok_iff {s : String} {members : Members} :
    readPayload s = .ok members ↔
      ∃ ms, SpellsDocument (.object ms) (ofString s) ∧ members = normalMembers ms := by
  simp only [← Json.readTree_eq_ok_iff, Json.readTree, readPayload, Record.readDocument]
  constructor
  · intro h
    split at h
    · cases h
    · next ms rest ht =>
      obtain ⟨ms, hv, rfl⟩ := Record.takeObject_eq_ok_iff.mp ht
      split at h
      · next he =>
        cases h
        exact ⟨ms, by simp [hv, he], rfl⟩
      · cases h
  · rintro ⟨ms, hv, rfl⟩
    split at hv
    · next v rest hr =>
      split at hv
      · next he =>
        cases hv
        simp [Record.takeObject_eq_ok_iff.mpr ⟨ms, hr, rfl⟩, he]
      · cases hv
    · cases hv

/-- Sorted members have the key and the canonical text of those that they were sorted from. -/
theorem canonicalText_normalMembers (p : Members) :
    canonicalText (.object (normalMembers p)) = canonicalText (.object p) := by
  simp only [canonicalText, Json.normalize_object, Json.normalMembers_normalMembers]

theorem deriveKey_normalMembers (kind : Kind) (p : Members) :
    deriveKey kind (normalMembers p) = deriveKey kind p := by
  simp only [deriveKey, keyText, canonicalText_normalMembers]

/-- **The key does not know how the payload was written.** Texts of two objects that differ
in the order of members, at any depth, are read as one payload, so the canonical text and
the key of every kind are the same, derived from what was read or from what was written.
Sorting is done once and for all, and changes nothing but the order of members. -/
theorem deriveKey_ignores_writing :
    (∀ (s t : String) (p q : Members), SpellsDocument (.object p) (ofString s) →
      SpellsDocument (.object q) (ofString t) → Reordered (.object p) (.object q) →
      ∃ ms, readPayload s = .ok ms ∧ readPayload t = .ok ms ∧
        (canonicalText (.object p) = canonicalText (.object ms) ∧
          canonicalText (.object q) = canonicalText (.object ms)) ∧
        ∀ kind, deriveKey kind p = deriveKey kind ms ∧ deriveKey kind q = deriveKey kind ms) ∧
    ∀ v : Json, v.normalize.normalize = v.normalize ∧ (Distinct v → Reordered v v.normalize) := by
  refine ⟨fun s t p q hs ht hpq => ?_,
    fun v => ⟨Json.normalize_normalize v, Distinct.reordered_normalize⟩⟩
  have hnormal : normalMembers p = normalMembers q := by
    simpa only [Json.normalize_object, Json.object.injEq] using hpq.normalize_eq
  refine ⟨normalMembers p, readPayload_eq_ok_iff.mpr ⟨p, hs, rfl⟩,
    readPayload_eq_ok_iff.mpr ⟨q, ht, hnormal⟩, ⟨?_, ?_⟩, fun kind => ⟨?_, ?_⟩⟩
  · exact (canonicalText_normalMembers p).symm
  · rw [hnormal, canonicalText_normalMembers]
  · exact (deriveKey_normalMembers kind p).symm
  · rw [hnormal, deriveKey_normalMembers]

/-- An object inside an array, with its members in the other order; and an escape in a key and
in a text, and blanks. -/
theorem deriveKey_ignores_writing_nested :
    let s := "\x7b\"b\":[1,\x7b\"y\":null,\"x\":\"\\u00e9\"\x7d],\"a\":2\x7d"
    let t := " \x7b\"a\": 2, \"\\u0062\": [1, \x7b\"x\": \"é\", \"y\": null\x7d]\x7d\n"
    ∃ p q, SpellsDocument (.object p) (ofString s) ∧ SpellsDocument (.object q) (ofString t) ∧
      Reordered (.object p) (.object q) ∧
      (∃ ms, readPayload s = .ok ms ∧ readPayload t = .ok ms ∧
        (canonicalText (.object p) = canonicalText (.object ms) ∧
          canonicalText (.object q) = canonicalText (.object ms)) ∧
        ∀ kind, deriveKey kind p = deriveKey kind ms ∧ deriveKey kind q = deriveKey kind ms) ∧
      Distinct (.object p) ∧ Reordered (.object p) (Json.object p).normalize := by
  intro s t
  let inner : Members := [("y", .null), ("x", .text "é")]
  let inner' : Members := [("x", .text "é"), ("y", .null)]
  have hs : SpellsDocument (.object [("b", .array [.integer 1, .object inner]), ("a", .integer 2)])
      (ofString s) := Json.readTree_eq_ok_iff.mp (by rfl)
  have ht : SpellsDocument (.object [("a", .integer 2), ("b", .array [.integer 1, .object inner'])])
      (ofString t) := Json.readTree_eq_ok_iff.mp (by rfl)
  have hinner : Reordered (.object inner) (.object inner') := by
    refine .object (by decide) (by decide) fun key v w hv hw => ?_
    simp only [inner, inner', List.mem_cons, List.not_mem_nil, or_false, Prod.mk.injEq] at hv hw
    rcases hv with ⟨rfl, rfl⟩ | ⟨rfl, rfl⟩ <;> rcases hw with ⟨h, rfl⟩ | ⟨h, rfl⟩ <;>
      first | exact .scalar rfl | exact absurd h (by decide)
  have hitems : Reordered (.array [.integer 1, .object inner])
      (.array [.integer 1, .object inner']) := by
    refine .array rfl fun i v w hv hw => ?_
    match i with
    | 0 => cases hv; cases hw; exact .scalar rfl
    | 1 => cases hv; cases hw; exact hinner
    | i + 2 => cases hv
  have hpq : Reordered (.object [("b", .array [.integer 1, .object inner]), ("a", .integer 2)])
      (.object [("a", .integer 2), ("b", .array [.integer 1, .object inner'])]) := by
    refine .object (by decide) (by decide) fun key v w hv hw => ?_
    simp only [List.mem_cons, List.not_mem_nil, or_false, Prod.mk.injEq] at hv hw
    rcases hv with ⟨rfl, rfl⟩ | ⟨rfl, rfl⟩ <;> rcases hw with ⟨h, rfl⟩ | ⟨h, rfl⟩ <;>
      first | exact hitems | exact .scalar rfl | exact absurd h (by decide)
  have hdistinct : Distinct (.object [("b", .array [.integer 1, .object inner]),
      ("a", .integer 2)]) := by
    have hinner : Distinct (.object inner) := by
      refine .object (by decide) ?_
      simp only [inner, List.forall_mem_cons]
      exact ⟨.scalar rfl, .scalar rfl, by simp⟩
    refine .object (by decide) ?_
    simp only [List.forall_mem_cons]
    refine ⟨.array ?_, .scalar rfl, by simp⟩
    simp only [List.forall_mem_cons]
    exact ⟨.scalar rfl, hinner, by simp⟩
  exact ⟨_, _, hs, ht, hpq, deriveKey_ignores_writing.1 s t _ _ hs ht hpq, hdistinct,
    (deriveKey_ignores_writing.2 _).2 hdistinct⟩

end Event

end PipelineWatch
