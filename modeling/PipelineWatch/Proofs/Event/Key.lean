import PipelineWatch.Event.History
import PipelineWatch.Proofs.Digest.Sha256
import PipelineWatch.Proofs.Json.Unambiguous

/-!
Derived keys. A key tells the kind and the payload that it was derived from, as far as the
hash tells its messages: whoever finds two events with one key has found a collision.
-/
namespace PipelineWatch.Event

open Digest.Sha256 (Collide eq_or_collide)
open Json (Members normalMembers)
open Text.Utf8 (ofString)

/-- Texts of one hash are the same, or else collide. -/
theorem hashText_eq {s t : String} (h : hashText s = hashText t) :
    s = t ∨ Collide (ofString s) (ofString t) :=
  (eq_or_collide h).imp_left Text.Utf8.ofString_injective

/-- The hash in the text of a key has a fixed length, so the text tells it from the kind,
whatever colons that holds. -/
theorem keyText_injective {k l : Kind} {p q : Members} (h : keyText k p = keyText l q) :
    k.marker = l.marker ∧
      hashText (canonicalText (.object p)) = hashText (canonicalText (.object q)) := by
  have hchars := congrArg String.toList h
  simp only [keyText, String.toList_append] at hchars
  -- texts of one length at the end are cut off together
  have hlen : (hashText (canonicalText (.object p))).toList.length =
      (hashText (canonicalText (.object q))).toList.length := by
    rw [hashText, hashText, Digest.Sha256.length_hex, Digest.Sha256.length_hex]
  obtain ⟨hkind, hhash⟩ := List.append_inj' hchars hlen
  exact ⟨String.toList_inj.mp (List.append_cancel_right hkind), String.toList_inj.mp hhash⟩

/-- The canonical text of a payload is the text of no other one. -/
theorem canonicalText_injective {p q : Members} (hp : (Json.object p).Finite)
    (hq : (Json.object q).Finite)
    (h : canonicalText (.object p) = canonicalText (.object q)) :
    normalMembers p = normalMembers q := by
  have hdivides : Json.Style.producer.Divides := ⟨[' '], rfl⟩
  have heq := Json.write_injective hdivides hp.normalize hq.normalize h
  simpa only [Json.normalize_object, Json.object.injEq] using heq

/-- Two events with one derived key are of the same kind and payload, or else the canonical
texts of their payloads or the texts of their keys collide. Documents in memory hold no
fractions but finite ones, which is what both payloads are taken to do. -/
theorem eq_or_collide_of_deriveKey_eq (k l : Kind) (p q : Members)
    (hp : (Json.object p).Finite) (hq : (Json.object q).Finite)
    (h : deriveKey k p = deriveKey l q) :
    (k.marker = l.marker ∧ normalMembers p = normalMembers q) ∨
      Collide (ofString (canonicalText (.object p))) (ofString (canonicalText (.object q))) ∨
      Collide (ofString (keyText k p)) (ofString (keyText l q)) := by
  rcases hashText_eq h with hkey | hcollide
  · obtain ⟨hkind, hhash⟩ := keyText_injective hkey
    rcases hashText_eq hhash with htext | hcollide
    · exact .inl ⟨hkind, canonicalText_injective hp hq htext⟩
    · exact .inr (.inl hcollide)
  · exact .inr (.inr hcollide)

/-- A kind with a colon in its name, and one payload in two orders with a fraction in it. -/
theorem eq_or_collide_of_deriveKey_eq_reordered :
    let p : Members := [("b", .float ⟨0x3FF8000000000000⟩), ("a", .integer (-2))]
    let q : Members := [("a", .integer (-2)), ("b", .float ⟨0x3FF8000000000000⟩)]
    deriveKey (.other "x:y") p = deriveKey (.other "x:y") q ∧
      (((Kind.other "x:y").marker = (Kind.other "x:y").marker ∧
          normalMembers p = normalMembers q) ∨
        Collide (ofString (canonicalText (.object p))) (ofString (canonicalText (.object q))) ∨
        Collide (ofString (keyText (.other "x:y") p)) (ofString (keyText (.other "x:y") q))) := by
  intro p q
  have finite : ∀ ms : Members, ms = p ∨ ms = q → (Json.object ms).Finite := by
    rintro _ (rfl | rfl) x hx <;>
    · simp [p, q, Json.leaves, Json.membersLeaves] at hx
      subst hx
      decide
  have hnormal : (Json.object p).normalize = (Json.object q).normalize := by rfl
  have hkey : deriveKey (.other "x:y") p = deriveKey (.other "x:y") q := by
    rw [deriveKey, deriveKey, keyText, keyText, canonicalText, canonicalText, hnormal]
  have hcollide :=
    eq_or_collide_of_deriveKey_eq _ _ p q (finite p (.inl rfl)) (finite q (.inr rfl)) hkey
  exact ⟨hkey, hcollide⟩

end PipelineWatch.Event
