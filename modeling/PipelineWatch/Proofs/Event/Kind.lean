import PipelineWatch.Event.Kind

/-!
Kinds and their markers. Reading the marker of a kind gives the kind back, unless the kind
is an unknown one that bears a known marker; no text is read as such a kind.
-/
namespace PipelineWatch.Kind

/-- No known marker under the name of an unknown kind. -/
def Proper (k : Kind) : Prop :=
  ∀ s, k = .other s → s ∉ known.map marker

theorem find?_known {s : String} {k : Kind} (h : (known.find? fun k => k.marker == s) = some k) :
    k ∈ known ∧ k.marker = s := by
  have hs := List.find?_some h
  exact ⟨List.mem_of_find?_eq_some h, by simpa using hs⟩

theorem marker_ofMarker (s : String) : (ofMarker s).marker = s := by
  rw [ofMarker]
  cases h : known.find? fun k => k.marker == s with
  | none => rfl
  | some k => exact (find?_known h).2

theorem proper_ofMarker (s : String) : (ofMarker s).Proper := by
  intro t ht hmem
  rw [ofMarker] at ht
  cases h : known.find? fun k => k.marker == s with
  | none =>
    rw [h] at ht
    obtain rfl := Kind.other.inj ht
    obtain ⟨k, hk, hm⟩ := List.mem_map.mp hmem
    exact List.find?_eq_none.mp h k hk (by simpa using hm)
  | some k =>
    rw [h] at ht
    obtain rfl : k = .other t := ht
    exact absurd (find?_known h).1 (by simp [known])

theorem ofMarker_marker {k : Kind} (h : k.Proper) : ofMarker k.marker = k := by
  cases k with
  | other s =>
    have hnone : (known.find? fun k => k.marker == s) = none := by
      refine List.find?_eq_none.mpr fun k hk hm => h s rfl ?_
      exact List.mem_map.mpr ⟨k, hk, by simpa using hm⟩
    rw [marker, ofMarker, hnone]
    rfl
  | _ => decide

/-- A kind that is not proper is read as another one. -/
theorem ofMarker_marker_iff {k : Kind} : ofMarker k.marker = k ↔ k.Proper := by
  refine ⟨fun same => ?_, ofMarker_marker⟩
  rw [← same]
  exact proper_ofMarker k.marker

end PipelineWatch.Kind
