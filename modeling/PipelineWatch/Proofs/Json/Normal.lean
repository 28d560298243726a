import Mathlib.Algebra.Ring.Int.Defs
import Mathlib.Algebra.Ring.Nat
import PipelineWatch.Json.Basic

/-!
Documents as trees: what they hold at their ends, how deep they nest, and what becomes of
both when the members are sorted. Of members that share a key the last one counts;
`lookup` after sorting finds it.
-/
namespace PipelineWatch.Json

/-- Induction over a document: its items, or the values of its members, come first. -/
@[elab_as_elim, induction_eliminator]
theorem induct {motive : Json → Prop} (null : motive .null) (bool : ∀ b, motive (.bool b))
    (integer : ∀ n, motive (.integer n)) (float : ∀ x, motive (.float x))
    (text : ∀ s, motive (.text s))
    (array : ∀ items, (∀ v ∈ items, motive v) → motive (.array items))
    (object : ∀ members : Members, (∀ m ∈ members, motive m.2) → motive (.object members)) :
    ∀ v, motive v := by
  intro v
  refine Json.rec (motive_1 := motive) (motive_2 := fun items => ∀ v ∈ items, motive v)
    (motive_3 := fun members => ∀ m ∈ members, motive m.2) (motive_4 := fun m => motive m.2)
    null bool integer float text array object ?_ ?_ ?_ ?_ ?_ v
  · simp
  · exact fun v vs hv hvs => List.forall_mem_cons.mpr ⟨hv, hvs⟩
  · simp
  · exact fun m ms hm hms => List.forall_mem_cons.mpr ⟨hm, hms⟩
  · exact fun _ _ h => h

/-! ### Members by key -/

/-- The value of the last member with this key. -/
def last? (key : String) (members : Members) : Option Json :=
  lookup key members.reverse

/-- Members by rising key, each key once. -/
def Sorted (members : Members) : Prop :=
  members.Pairwise fun a b => a.1 < b.1

theorem lookup_append (key : String) (ms ns : Members) :
    lookup key (ms ++ ns) = (lookup key ms).or (lookup key ns) := by
  induction ms with
  | nil => rfl
  | cons m ms ih =>
    simp only [List.cons_append, lookup, ih]
    split <;> simp

theorem lookup_eq_none {key : String} {ms : Members} (h : ∀ m ∈ ms, m.1 ≠ key) :
    lookup key ms = none := by
  induction ms with
  | nil => rfl
  | cons m ms ih =>
    obtain ⟨hm, hms⟩ := List.forall_mem_cons.mp h
    simp [lookup, hm, ih hms]

theorem mem_of_lookup {key : String} {v : Json} {ms : Members} (h : lookup key ms = some v) :
    (key, v) ∈ ms := by
  induction ms with
  | nil => cases h
  | cons m ms ih =>
    simp only [lookup] at h
    split at h
    · next hk =>
      cases h
      exact hk ▸ List.mem_cons_self ..
    · exact List.mem_cons_of_mem _ (ih h)

theorem mem_of_last? {key : String} {v : Json} {ms : Members} (h : last? key ms = some v) :
    (key, v) ∈ ms :=
  List.mem_reverse.mp (mem_of_lookup h)

theorem last?_cons (key : String) (m : String × Json) (ms : Members) :
    last? key (m :: ms) = (last? key ms).or (if m.1 = key then some m.2 else none) := by
  rw [last?, List.reverse_cons, lookup_append]
  rfl

theorem mem_insertMember {key : String} {v : Json} {ms : Members} {m : String × Json}
    (h : m ∈ insertMember key v ms) : m = (key, v) ∨ m ∈ ms := by
  induction ms with
  | nil => exact .inl (List.mem_singleton.mp h)
  | cons n ms ih =>
    simp only [insertMember] at h
    split at h
    · exact List.mem_cons.mp h
    split at h
    · exact .inr h
    · rcases List.mem_cons.mp h with rfl | h
      · exact .inr (List.mem_cons_self ..)
      · exact (ih h).imp_right (List.mem_cons_of_mem _)

theorem mem_sortMembers {ms : Members} {m : String × Json} (h : m ∈ sortMembers ms) : m ∈ ms := by
  induction ms with
  | nil => exact h
  | cons n ms ih =>
    rcases mem_insertMember h with rfl | h
    · exact List.mem_cons_self ..
    · exact List.mem_cons_of_mem _ (ih h)

theorem Sorted.insertMember {ms : Members} (h : Sorted ms) (key : String) (v : Json) :
    Sorted (insertMember key v ms) := by
  induction ms with
  | nil => exact List.pairwise_singleton ..
  | cons n ms ih =>
    obtain ⟨hn, hms⟩ := List.pairwise_cons.mp h
    simp only [Json.insertMember]
    split
    · next hlt =>
      refine List.pairwise_cons.mpr ⟨fun m hm => ?_, h⟩
      rcases List.mem_cons.mp hm with rfl | hm
      · exact hlt
      · exact String.lt_trans hlt (hn m hm)
    split
    · exact h
    · next hge hne =>
      have hlt : n.1 < key := by
        refine String.not_le.mp fun hle => hne ?_
        exact String.le_antisymm hle (String.not_lt.mp hge)
      refine List.pairwise_cons.mpr ⟨fun m hm => ?_, ih hms⟩
      rcases mem_insertMember hm with rfl | hm
      · exact hlt
      · exact hn m hm

theorem sorted_sortMembers (ms : Members) : Sorted (sortMembers ms) := by
  induction ms with
  | nil => exact List.Pairwise.nil
  | cons m ms ih => exact ih.insertMember m.1 m.2

/-- Sorting leaves sorted members as they are. -/
theorem Sorted.sortMembers {ms : Members} (h : Sorted ms) : sortMembers ms = ms := by
  induction ms with
  | nil => rfl
  | cons m ms ih =>
    obtain ⟨hm, hms⟩ := List.pairwise_cons.mp h
    show Json.insertMember m.1 m.2 (Json.sortMembers ms) = m :: ms
    rw [ih hms]
    cases ms with
    | nil => rfl
    | cons n ms => simp [Json.insertMember, hm n (List.mem_cons_self ..)]

theorem Sorted.lookup_insertMember {ms : Members} (h : Sorted ms) (k key : String) (v : Json) :
    lookup k (Json.insertMember key v ms) =
      (lookup k ms).or (if key = k then some v else none) := by
  induction ms with
  | nil => rfl
  | cons n ms ih =>
    obtain ⟨hn, hms⟩ := List.pairwise_cons.mp h
    simp only [Json.insertMember]
    split
    · next hlt =>
      by_cases hk : key = k
      · subst hk
        -- the new member stands in front of all others, whose keys are larger
        have hnone : lookup key (n :: ms) = none := by
          refine lookup_eq_none fun m hm => ?_
          rcases List.mem_cons.mp hm with rfl | hm
          · exact fun he => String.lt_irrefl key (he ▸ hlt)
          · exact fun he => String.lt_irrefl key (String.lt_trans hlt (he ▸ hn m hm))
        rw [hnone]
        simp [lookup]
      · simp [lookup, hk]
    split
    · next hkey =>
      by_cases hk : key = k
      · simp [lookup, ← hkey, hk]
      · simp [hk]
    · simp only [lookup, ih hms]
      split <;> simp

theorem Sorted.lookup_of_mem {ms : Members} (h : Sorted ms) {m : String × Json} (hm : m ∈ ms) :
    lookup m.1 ms = some m.2 := by
  induction ms with
  | nil => cases hm
  | cons n ms ih =>
    obtain ⟨hn, hms⟩ := List.pairwise_cons.mp h
    rcases List.mem_cons.mp hm with rfl | hm
    · simp [lookup]
    · have hne : n.1 ≠ m.1 := fun he => String.lt_irrefl m.1 (he ▸ hn m hm)
      rw [lookup, if_neg hne, ih hms hm]

/-- After sorting there is one member of each key, the last one. -/
theorem lookup_sortMembers (key : String) (ms : Members) :
    lookup key (sortMembers ms) = last? key ms := by
  induction ms with
  | nil => rfl
  | cons m ms ih =>
    rw [last?_cons, ← ih]
    exact (sorted_sortMembers ms).lookup_insertMember key m.1 m.2

/-! ### Sorting all of a document -/

theorem normalizeItems_eq_map (vs : List Json) : normalizeItems vs = vs.map normalize := by
  induction vs with
  | nil => rfl
  | cons v vs ih => simp [normalizeItems, ih]

theorem normalizeMembers_eq_map (ms : Members) :
    normalizeMembers ms = ms.map fun m => (m.1, m.2.normalize) := by
  induction ms with
  | nil => rfl
  | cons m ms ih => simp [normalizeMembers, ih]

theorem normalize_array (vs : List Json) : normalize (.array vs) = .array (vs.map normalize) := by
  rw [normalize, normalizeItems_eq_map]

/-- The members of an object in the form in which they are compared. -/
def normalMembers (ms : Members) : Members :=
  sortMembers (normalizeMembers ms)

theorem normalize_object (ms : Members) : normalize (.object ms) = .object (normalMembers ms) := by
  rw [normalize, normalMembers]

theorem mem_normalMembers {ms : Members} {m : String × Json} (h : m ∈ normalMembers ms) :
    ∃ n ∈ ms, m = (n.1, n.2.normalize) := by
  have hm := mem_sortMembers h
  rw [normalizeMembers_eq_map] at hm
  obtain ⟨n, hn, rfl⟩ := List.mem_map.mp hm
  exact ⟨n, hn, rfl⟩

theorem lookup_map (key : String) (f : Json → Json) (ms : Members) :
    lookup key (ms.map fun m => (m.1, f m.2)) = (lookup key ms).map f := by
  induction ms with
  | nil => rfl
  | cons m ms ih =>
    simp only [List.map_cons, lookup, ih]
    split <;> rfl

theorem lookup_normalMembers (key : String) (ms : Members) :
    lookup key (normalMembers ms) = (last? key ms).map normalize := by
  rw [normalMembers, lookup_sortMembers, normalizeMembers_eq_map, last?, ← List.map_reverse,
    lookup_map, last?]

theorem normalMembers_of_sorted {ms : Members} (h : Sorted ms)
    (hv : ∀ m ∈ ms, m.2.normalize = m.2) : normalMembers ms = ms := by
  have hmap : normalizeMembers ms = ms := by
    rw [normalizeMembers_eq_map]
    have hid : ∀ m ∈ ms, (m.1, m.2.normalize) = id m := fun m hm => Prod.ext rfl (hv m hm)
    rw [List.map_congr_left hid, List.map_id]
  rw [normalMembers, hmap, h.sortMembers]

theorem sorted_normalMembers (ms : Members) : Sorted (normalMembers ms) :=
  sorted_sortMembers _

/-- What is in normal form stays so. -/
@[simp] theorem normalize_normalize (v : Json) : v.normalize.normalize = v.normalize := by
  induction v with
  | null | bool | integer | float | text => rfl
  | array vs ih =>
    rw [normalize_array, normalize_array, List.map_map]
    exact congrArg _ (List.map_congr_left ih)
  | object ms ih =>
    rw [normalize_object, normalize_object]
    refine congrArg _ (normalMembers_of_sorted (sorted_normalMembers ms) fun m hm => ?_)
    obtain ⟨n, hn, rfl⟩ := mem_normalMembers hm
    exact ih n hn

@[simp] theorem normalMembers_normalMembers (ms : Members) :
    normalMembers (normalMembers ms) = normalMembers ms := by
  have h := normalize_normalize (.object ms)
  simpa only [normalize_object, Json.object.injEq] using h

/-! ### Ends and depth -/

mutual

/-- The values of a document that are no containers. -/
def leaves : Json → List Json
  | .array items => itemsLeaves items
  | .object members => membersLeaves members
  | v => [v]

/-- Those of all items. -/
def itemsLeaves : List Json → List Json
  | [] => []
  | v :: vs => leaves v ++ itemsLeaves vs

/-- Those of the values of all members. -/
def membersLeaves : Members → List Json
  | [] => []
  | (_, v) :: ms => leaves v ++ membersLeaves ms

end

theorem mem_leaves_array {l : Json} {vs : List Json} :
    l ∈ leaves (.array vs) ↔ ∃ v ∈ vs, l ∈ leaves v := by
  rw [leaves]
  induction vs with
  | nil => simp [itemsLeaves]
  | cons v vs ih => simp [itemsLeaves, ih]

theorem mem_leaves_object {l : Json} {ms : Members} :
    l ∈ leaves (.object ms) ↔ ∃ m ∈ ms, l ∈ leaves m.2 := by
  rw [leaves]
  induction ms with
  | nil => simp [membersLeaves]
  | cons m ms ih => simp [membersLeaves, ih]

theorem leaves_normalize {l v : Json} (h : l ∈ leaves v.normalize) : l ∈ leaves v := by
  induction v with
  | null | bool | integer | float | text => exact h
  | array vs ih =>
    rw [normalize_array, mem_leaves_array] at h
    obtain ⟨w, hw, hl⟩ := h
    obtain ⟨v, hv, rfl⟩ := List.mem_map.mp hw
    exact mem_leaves_array.mpr ⟨v, hv, ih v hv hl⟩
  | object ms ih =>
    rw [normalize_object, mem_leaves_object] at h
    obtain ⟨m, hm, hl⟩ := h
    obtain ⟨n, hn, rfl⟩ := mem_normalMembers hm
    exact mem_leaves_object.mpr ⟨n, hn, ih n hn hl⟩

/-- Whole numbers fit 64 bits, with a sign only below zero. -/
def Bounded (v : Json) : Prop :=
  ∀ n, .integer n ∈ leaves v → -2 ^ 63 ≤ n ∧ n < 2 ^ 64

/-- Every number is a whole one. -/
def Floatless (v : Json) : Prop :=
  ∀ x, .float x ∉ leaves v

/-- Every fraction is a number, neither infinite nor none. -/
def Finite (v : Json) : Prop :=
  ∀ x, .float x ∈ leaves v → x.isFinite = true

theorem Finite.normalize {v : Json} (h : Finite v) : Finite v.normalize :=
  fun x hx => h x (leaves_normalize hx)

theorem Finite.item {vs : List Json} (h : Finite (.array vs)) : ∀ v ∈ vs, Finite v :=
  fun v hv x hx => h x (mem_leaves_array.mpr ⟨v, hv, hx⟩)

theorem Finite.member {ms : Members} (h : Finite (.object ms)) : ∀ m ∈ ms, Finite m.2 :=
  fun m hm x hx => h x (mem_leaves_object.mpr ⟨m, hm, hx⟩)

theorem Bounded.normalize {v : Json} (h : Bounded v) : Bounded v.normalize :=
  fun n hn => h n (leaves_normalize hn)

theorem Floatless.normalize {v : Json} (h : Floatless v) : Floatless v.normalize :=
  fun x hx => h x (leaves_normalize hx)

theorem Floatless.finite {v : Json} (h : Floatless v) : Finite v :=
  fun x hx => absurd hx (h x)

mutual

/-- How many containers stand inside each other at most. -/
def depth : Json → Nat
  | .array items => itemsDepth items + 1
  | .object members => membersDepth members + 1
  | _ => 0

/-- The largest depth of the items. -/
def itemsDepth : List Json → Nat
  | [] => 0
  | v :: vs => max (depth v) (itemsDepth vs)

/-- The largest depth of the values of the members. -/
def membersDepth : Members → Nat
  | [] => 0
  | (_, v) :: ms => max (depth v) (membersDepth ms)

end

theorem depth_array_le_iff {d : Nat} {vs : List Json} :
    depth (.array vs) ≤ d + 1 ↔ ∀ v ∈ vs, depth v ≤ d := by
  rw [depth, Nat.add_le_add_iff_right]
  induction vs with
  | nil => simp [itemsDepth]
  | cons v vs ih => rw [itemsDepth, Nat.max_le, ih, List.forall_mem_cons]

theorem depth_object_le_iff {d : Nat} {ms : Members} :
    depth (.object ms) ≤ d + 1 ↔ ∀ m ∈ ms, depth m.2 ≤ d := by
  rw [depth, Nat.add_le_add_iff_right]
  induction ms with
  | nil => simp [membersDepth]
  | cons m ms ih => rw [membersDepth, Nat.max_le, ih, List.forall_mem_cons]

theorem depth_normalize_le {v : Json} {d : Nat} (h : depth v ≤ d) : depth v.normalize ≤ d := by
  induction v generalizing d with
  | null | bool | integer | float | text => exact h
  | array vs ih =>
    cases d with
    | zero => simp [depth] at h
    | succ d =>
      rw [normalize_array, depth_array_le_iff]
      rw [depth_array_le_iff] at h
      intro w hw
      obtain ⟨v, hv, rfl⟩ := List.mem_map.mp hw
      exact ih v hv (h v hv)
  | object ms ih =>
    cases d with
    | zero => simp [depth] at h
    | succ d =>
      rw [normalize_object, depth_object_le_iff]
      rw [depth_object_le_iff] at h
      intro m hm
      obtain ⟨n, hn, rfl⟩ := mem_normalMembers hm
      exact ih n hn (h n hn)

/-! ### Other fractions -/

section

open Decimal (Binary64)

mutual

/-- The document with `f x` for each fraction `x`. -/
def mapFloats (f : Binary64 → Binary64) : Json → Json
  | .float x => .float (f x)
  | .array items => .array (itemsMapFloats f items)
  | .object members => .object (membersMapFloats f members)
  | v => v

/-- The same for each item. -/
def itemsMapFloats (f : Binary64 → Binary64) : List Json → List Json
  | [] => []
  | v :: vs => mapFloats f v :: itemsMapFloats f vs

/-- The same for the value of each member. -/
def membersMapFloats (f : Binary64 → Binary64) : Members → Members
  | [] => []
  | (key, v) :: ms => (key, mapFloats f v) :: membersMapFloats f ms

end

variable {f : Binary64 → Binary64}

theorem mapFloats_array (vs : List Json) :
    mapFloats f (.array vs) = .array (vs.map (mapFloats f)) := by
  rw [mapFloats]
  induction vs with
  | nil => rfl
  | cons v vs ih => simpa [itemsMapFloats] using ih

theorem membersMapFloats_eq_map (ms : Members) :
    membersMapFloats f ms = ms.map fun m => (m.1, mapFloats f m.2) := by
  induction ms with
  | nil => rfl
  | cons m ms ih => simp [membersMapFloats, ih]

theorem mapFloats_object (ms : Members) :
    mapFloats f (.object ms) = .object (ms.map fun m => (m.1, mapFloats f m.2)) := by
  rw [mapFloats, membersMapFloats_eq_map]

/-- A document is as it was where no fraction in it is replaced by another one. -/
theorem mapFloats_eq_self_iff {v : Json} :
    mapFloats f v = v ↔ ∀ x, .float x ∈ leaves v → f x = x := by
  induction v with
  | null | bool | integer | text => simp [mapFloats, leaves]
  | float x => simp [mapFloats, leaves]
  | array vs ih =>
    rw [mapFloats_array]
    simp only [mem_leaves_array]
    constructor
    · rintro h x ⟨v, hv, hx⟩
      have hsame := List.map_inj_left.mp ((Json.array.inj h).trans (List.map_id vs).symm) v hv
      exact (ih v hv).mp hsame x hx
    · intro h
      refine congrArg _ ((List.map_congr_left fun v hv => ?_).trans (List.map_id vs))
      exact (ih v hv).mpr fun x hx => h x ⟨v, hv, hx⟩
  | object ms ih =>
    rw [mapFloats_object]
    simp only [mem_leaves_object]
    constructor
    · rintro h x ⟨m, hm, hx⟩
      have hsame := List.map_inj_left.mp ((Json.object.inj h).trans (List.map_id ms).symm) m hm
      exact (ih m hm).mp (congrArg Prod.snd hsame) x hx
    · intro h
      refine congrArg _ ((List.map_congr_left fun m hm => ?_).trans (List.map_id ms))
      exact Prod.ext rfl ((ih m hm).mpr fun x hx => h x ⟨m, hm, hx⟩)

theorem mem_leaves_mapFloats {v l : Json} (h : l ∈ leaves (mapFloats f v)) :
    ∃ k ∈ leaves v, mapFloats f k = l := by
  induction v with
  | null | bool | integer | float | text =>
    exact ⟨_, List.mem_singleton.mpr rfl, (List.mem_singleton.mp h).symm⟩
  | array vs ih =>
    rw [mapFloats_array, mem_leaves_array] at h
    obtain ⟨w, hw, hl⟩ := h
    obtain ⟨v, hv, rfl⟩ := List.mem_map.mp hw
    obtain ⟨k, hk, hf⟩ := ih v hv hl
    exact ⟨k, mem_leaves_array.mpr ⟨v, hv, hk⟩, hf⟩
  | object ms ih =>
    rw [mapFloats_object, mem_leaves_object] at h
    obtain ⟨n, hn, hl⟩ := h
    obtain ⟨m, hm, rfl⟩ := List.mem_map.mp hn
    obtain ⟨k, hk, hf⟩ := ih m hm hl
    exact ⟨k, mem_leaves_object.mpr ⟨m, hm, hk⟩, hf⟩

theorem Finite.mapFloats {v : Json} (h : Finite v)
    (hf : ∀ x : Binary64, x.isFinite = true → (f x).isFinite = true) : Finite (mapFloats f v) := by
  intro y hy
  obtain ⟨k, hk, hkf⟩ := mem_leaves_mapFloats hy
  cases k with
  | float x => exact Json.float.inj hkf ▸ hf x (h x hk)
  | _ => simp [Json.mapFloats] at hkf

theorem Bounded.mapFloats {v : Json} (h : Bounded v) : Bounded (mapFloats f v) := by
  intro n hn
  obtain ⟨k, hk, hkf⟩ := mem_leaves_mapFloats hn
  cases k with
  | integer m => exact Json.integer.inj hkf ▸ h m hk
  | _ => simp [Json.mapFloats] at hkf

theorem sortMembers_map (g : Json → Json) (ms : Members) :
    sortMembers (ms.map fun m => (m.1, g m.2)) = (sortMembers ms).map fun m => (m.1, g m.2) := by
  have insert : ∀ (key : String) (v : Json) (ms : Members),
      insertMember key (g v) (ms.map fun m => (m.1, g m.2)) =
        (insertMember key v ms).map fun m => (m.1, g m.2) := by
    intro key v ms
    induction ms with
    | nil => rfl
    | cons m ms ih =>
      simp only [List.map_cons, insertMember, ih]
      split
      · rfl
      split
      · rfl
      · rfl
  induction ms with
  | nil => rfl
  | cons m ms ih =>
    show insertMember m.1 (g m.2) (sortMembers (ms.map fun m => (m.1, g m.2))) = _
    rw [ih, insert]
    rfl

/-- Sorting the members does not look at fractions. -/
theorem normalize_mapFloats (v : Json) : (mapFloats f v).normalize = mapFloats f v.normalize := by
  induction v with
  | null | bool | integer | float | text => rfl
  | array vs ih =>
    rw [mapFloats_array, normalize_array, normalize_array, mapFloats_array, List.map_map,
      List.map_map]
    exact congrArg _ (List.map_congr_left ih)
  | object ms ih =>
    have hvalues : normalizeMembers (ms.map fun m => (m.1, mapFloats f m.2)) =
        (normalizeMembers ms).map fun m => (m.1, mapFloats f m.2) := by
      rw [normalizeMembers_eq_map, normalizeMembers_eq_map, List.map_map, List.map_map]
      exact List.map_congr_left fun m hm => Prod.ext rfl (ih m hm)
    rw [mapFloats_object, normalize_object, normalize_object, mapFloats_object, normalMembers,
      hvalues, sortMembers_map, normalMembers]

end

end PipelineWatch.Json
