import Mathlib.Data.List.Sort
import PipelineWatch.Proofs.Json.Normal

/-!
Documents that differ in the order of members, in any object inside them. Sorting gives all
of them one form, and that form is one of them.
-/
namespace PipelineWatch.Json

/-- The keys of the members, in their order. -/
def keys (members : Members) : List String :=
  members.map Prod.fst

/-- No object in the document has a key twice. -/
inductive Distinct : Json → Prop where
  | scalar {v : Json} : v.depth = 0 → Distinct v
  | array {vs : List Json} : (∀ v ∈ vs, Distinct v) → Distinct (.array vs)
  | object {ms : Members} : (keys ms).Nodup → (∀ m ∈ ms, Distinct m.2) → Distinct (.object ms)

/-- The same document but for the order of members: arrays have the same items in the same
order, objects the same keys in some order, each once, with the same value under each. -/
inductive Reordered : Json → Json → Prop where
  | scalar {v : Json} : v.depth = 0 → Reordered v v
  | array {vs ws : List Json} : vs.length = ws.length →
      (∀ (i : Nat) (v w : Json), vs[i]? = some v → ws[i]? = some w → Reordered v w) →
      Reordered (.array vs) (.array ws)
  | object {ms ns : Members} : (keys ms).Nodup → (keys ms).Perm (keys ns) →
      (∀ (key : String) (v w : Json), (key, v) ∈ ms → (key, w) ∈ ns → Reordered v w) →
      Reordered (.object ms) (.object ns)

variable {ms ns : Members} {key : String} {v w : Json}

/-! ### Members with different keys -/

theorem mem_keys : key ∈ keys ms ↔ ∃ v, (key, v) ∈ ms := by
  simp [keys]

theorem Sorted.nodup_keys (h : Sorted ms) : (keys ms).Nodup :=
  List.pairwise_map.mpr (h.imp fun hlt => String.ne_of_lt hlt)

theorem lookup_eq_some_iff (h : (keys ms).Nodup) : lookup key ms = some v ↔ (key, v) ∈ ms := by
  refine ⟨mem_of_lookup, fun hm => ?_⟩
  induction ms with
  | nil => cases hm
  | cons n ms ih =>
    obtain ⟨hn, hms⟩ := List.nodup_cons.mp h
    rcases List.mem_cons.mp hm with rfl | hm
    · simp [lookup]
    · have hne : n.1 ≠ key := fun he => hn (mem_keys.mpr ⟨v, he ▸ hm⟩)
      rw [lookup, if_neg hne, ih hms hm]

theorem last?_eq_some_iff (h : (keys ms).Nodup) : last? key ms = some v ↔ (key, v) ∈ ms := by
  have hrev : (keys ms.reverse).Nodup := by
    rw [keys, List.map_reverse]
    exact List.nodup_reverse.mpr h
  rw [last?, lookup_eq_some_iff hrev, List.mem_reverse]

theorem eq_of_mem_of_nodup (h : (keys ms).Nodup) (hv : (key, v) ∈ ms) (hw : (key, w) ∈ ms) :
    v = w := by
  have hsome := (lookup_eq_some_iff h).mpr hv
  rw [(lookup_eq_some_iff h).mpr hw] at hsome
  exact (Option.some.inj hsome).symm

/-- Nothing is lost or added where the keys are all different. -/
theorem mem_normalMembers_iff (h : (keys ms).Nodup) :
    (key, v) ∈ normalMembers ms ↔ ∃ w, (key, w) ∈ ms ∧ w.normalize = v := by
  rw [← lookup_eq_some_iff (sorted_normalMembers ms).nodup_keys, lookup_normalMembers,
    Option.map_eq_some_iff]
  simp only [last?_eq_some_iff h]

/-- Sorted members are known by which ones they are. -/
theorem Sorted.eq_of_mem_iff (hm : Sorted ms) (hn : Sorted ns)
    (h : ∀ key v, (key, v) ∈ ms ↔ (key, v) ∈ ns) : ms = ns := by
  have antisymm : Std.Antisymm fun a b : String × Json => a.1 < b.1 :=
    ⟨fun a b hab hba => absurd (String.lt_trans hab hba) (String.lt_irrefl a.1)⟩
  have irrefl : Std.Irrefl fun a b : String × Json => a.1 < b.1 :=
    ⟨fun a => String.lt_irrefl a.1⟩
  exact List.Pairwise.eq_of_mem_iff hm hn fun m => h m.1 m.2

/-! ### Sorting and the order of members -/

/-- Documents that differ in the order of members only are sorted alike. -/
theorem Reordered.normalize_eq (h : Reordered v w) : v.normalize = w.normalize := by
  induction h with
  | scalar => rfl
  | @array vs ws hlen _ ih =>
    rw [normalize_array, normalize_array]
    refine congrArg _ (List.ext_getElem? fun i => ?_)
    rw [List.getElem?_map, List.getElem?_map]
    by_cases hi : i < vs.length
    · have hi' : i < ws.length := hlen ▸ hi
      simp only [List.getElem?_eq_getElem hi, List.getElem?_eq_getElem hi', Option.map_some]
      exact congrArg some (ih i _ _ (List.getElem?_eq_getElem hi) (List.getElem?_eq_getElem hi'))
    · rw [List.getElem?_eq_none (Nat.not_lt.mp hi),
        List.getElem?_eq_none (hlen ▸ Nat.not_lt.mp hi)]
  | @object ms ns hnodup hperm _ ih =>
    rw [normalize_object, normalize_object]
    refine congrArg _ (Sorted.eq_of_mem_iff (sorted_normalMembers ms) (sorted_normalMembers ns) ?_)
    intro key v
    rw [mem_normalMembers_iff hnodup, mem_normalMembers_iff (hperm.nodup hnodup)]
    constructor
    · rintro ⟨x, hx, rfl⟩
      obtain ⟨y, hy⟩ := mem_keys.mp (hperm.mem_iff.mp (mem_keys.mpr ⟨x, hx⟩))
      exact ⟨y, hy, (ih key x y hx hy).symm⟩
    · rintro ⟨y, hy, rfl⟩
      obtain ⟨x, hx⟩ := mem_keys.mp (hperm.mem_iff.mpr (mem_keys.mpr ⟨y, hy⟩))
      exact ⟨x, hx, ih key x y hx hy⟩

/-- Sorting does nothing but to put the members in another order. -/
theorem Distinct.reordered_normalize (h : Distinct v) : Reordered v v.normalize := by
  induction h with
  | @scalar v hdepth =>
    have hsame : v.normalize = v := by
      cases v with
      | array => simp [depth] at hdepth
      | object => simp [depth] at hdepth
      | _ => rfl
    rw [hsame]
    exact .scalar hdepth
  | @array vs _ ih =>
    rw [normalize_array]
    refine .array (List.length_map ..).symm fun i v w hv hw => ?_
    rw [List.getElem?_map, hv] at hw
    exact Option.some.inj hw ▸ ih v (List.mem_of_getElem? hv)
  | @object ms hnodup _ ih =>
    rw [normalize_object]
    refine .object hnodup ?_ fun key v w hv hw => ?_
    · refine (List.perm_ext_iff_of_nodup hnodup (sorted_normalMembers ms).nodup_keys).mpr ?_
      intro key
      simp [mem_keys, mem_normalMembers_iff hnodup]
    · obtain ⟨x, hx, rfl⟩ := (mem_normalMembers_iff hnodup).mp hw
      exact eq_of_mem_of_nodup hnodup hx hv ▸ ih _ hx

end PipelineWatch.Json
