import PipelineWatch.Proofs.Json.Normal
import PipelineWatch.Proofs.Text.Natural
import PipelineWatch.Record.Document

/-!
What a document tells of the fields of a record. An object tells of a field by the last
member of its name, an array by the item at its place; a record is decoded from what is
told of its fields and nothing else.
-/
namespace PipelineWatch.Record

open Json (Members last? lookup normalMembers)

/-! ### What is told of a field -/

/-- What a document tells of fields with these names, one after the other. An array has no
more items than there are fields. -/
inductive Tells (names : List String) : Json → (String → Option Json) → Prop where
  | object {members : Members} : Tells names (.object members) fun name => last? name members
  | array {items : List Json} : items.length ≤ names.length →
      Tells names (.array items) fun name => lookup name (names.zip items)

/-- Nothing is told, or null. -/
def Blank (told : Option Json) : Prop :=
  told = none ∨ told = some .null

/-- A text, or nothing, which leaves `absent`. -/
def TellsText (absent : String) (told : Option Json) (s : String) : Prop :=
  told = none ∧ s = absent ∨ told = some (.text s)

/-- A text, or nothing or null, which leave the empty one. -/
def TellsTextOrNull (told : Option Json) (s : String) : Prop :=
  Blank told ∧ s = "" ∨ told = some (.text s)

/-- A text, or nothing or null, which leave none. -/
def TellsOptional (told : Option Json) (s? : Option String) : Prop :=
  Blank told ∧ s? = none ∨ ∃ s, told = some (.text s) ∧ s? = some s

theorem tellsOptional_none {told : Option Json} : TellsOptional told none ↔ Blank told := by
  simp [TellsOptional]

theorem tellsOptional_some {told : Option Json} {s : String} :
    TellsOptional told (some s) ↔ told = some (.text s) := by
  simp [TellsOptional]

theorem tellsOptional_of_blank {told : Option Json} (h : Blank told) {s? : Option String} :
    TellsOptional told s? ↔ s? = none := by
  rcases h with rfl | rfl <;> simp [TellsOptional, Blank]

theorem tellsOptional_text {s : String} {s? : Option String} :
    TellsOptional (some (.text s)) s? ↔ s? = some s := by
  simp [TellsOptional, Blank]

/-- An object, with its members sorted; or nothing or null, which leave the empty one. -/
def TellsObject (told : Option Json) (members : Members) : Prop :=
  Blank told ∧ members = [] ∨ ∃ ms, told = some (.object ms) ∧ members = normalMembers ms

/-- A number without sign, in digits or as a text with blanks around it; or nothing or
null, which leave zero. -/
def TellsCount (told : Option Json) (n : Nat) : Prop :=
  Blank told ∧ n = 0 ∨ told = some (.integer n) ∨
    ∃ s, told = some (.text s) ∧ Text.Writes (Text.trim s) n

/-! ### Values after sorting -/

theorem decodeText_normalize {v : Json} {s : String} :
    decodeText v.normalize = .ok s ↔ v = .text s := by
  cases v <;> simp [decodeText, Json.normalize]

theorem decodeObject_normalize {v : Json} {members : Members} :
    decodeObject v.normalize = .ok members ↔
      v = .null ∧ members = [] ∨ ∃ ms, v = .object ms ∧ members = normalMembers ms := by
  rw [decodeObject, Json.normalize_normalize]
  cases v with
  | object ms => simp [Json.normalize_object, eq_comm]
  | null => simp [Json.normalize, eq_comm]
  | _ => simp [Json.normalize]

theorem decodeCount_normalize {v : Json} {n : Nat} :
    decodeCount v.normalize = .ok n ↔
      v = .null ∧ n = 0 ∨ v = .integer n ∨
        ∃ s, v = .text s ∧ Text.Writes (Text.trim s) n := by
  cases v with
  | null => simp [Json.normalize, decodeCount, eq_comm]
  | integer k =>
    simp only [Json.normalize, decodeCount]
    by_cases hk : 0 ≤ k
    · simp [hk]
      omega
    · simp [hk]
      omega
  | text s =>
    simp only [Json.normalize, decodeCount, ← Text.natural?_eq_ok_iff]
    cases hs : Text.natural? (Text.trim s) <;> simp [hs]
  | _ => simp [Json.normalize, decodeCount]

/-- What a field carries, of what is told of it. -/
def Field.Carries (f : Field) (told : Option Json) (x : f.shape.Carrier) : Prop :=
  match told with
  | some v => f.shape.decode v.normalize = .ok x
  | none => f.absent = some x

/-- What the fields of a record carry, of what is told of each. -/
def Carry (get : String → Option Json) : (fields : List Field) → Row fields → Prop
  | [], _ => True
  | f :: fs, (x, row) => f.Carries (get f.name) x ∧ Carry get fs row

variable {name : String}

theorem carries_required {told : Option Json} {s : String} :
    Field.Carries ⟨name, .text, none⟩ told s ↔ told = some (.text s) := by
  cases told with
  | none => simp [Field.Carries]
  | some v => simp [Field.Carries, Shape.decode, decodeText_normalize]

theorem carries_text {absent s : String} {told : Option Json} :
    Field.Carries ⟨name, .text, some absent⟩ told s ↔ TellsText absent told s := by
  cases told with
  | none => simp [Field.Carries, TellsText, eq_comm]
  | some v => simp [Field.Carries, TellsText, Shape.decode, decodeText_normalize]

theorem carries_textOrNull {told : Option Json} {s : String} :
    Field.Carries ⟨name, .textOrNull, some ""⟩ told s ↔ TellsTextOrNull told s := by
  cases told with
  | none => simp [Field.Carries, TellsTextOrNull, Blank, eq_comm]
  | some v =>
    cases v <;>
      simp [Field.Carries, TellsTextOrNull, Blank, Json.normalize, Shape.decode, decodeText,
        eq_comm]

theorem carries_optional {told : Option Json} {s? : Option String} :
    Field.Carries ⟨name, .optionalText, some none⟩ told s? ↔ TellsOptional told s? := by
  cases told with
  | none => simp [Field.Carries, TellsOptional, Blank, eq_comm]
  | some v =>
    cases v <;>
      simp [Field.Carries, TellsOptional, Blank, Json.normalize, Shape.decode, decodeText,
        Except.map, eq_comm]

theorem carries_object {told : Option Json} {members : Members} :
    Field.Carries ⟨name, .object, some []⟩ told members ↔ TellsObject told members := by
  cases told with
  | none => simp [Field.Carries, TellsObject, Blank, eq_comm]
  | some v => simp [Field.Carries, TellsObject, Blank, Shape.decode, decodeObject_normalize]

theorem carries_count {told : Option Json} {n : Nat} :
    Field.Carries ⟨name, .count, some (0 : Nat)⟩ told n ↔ TellsCount told n := by
  cases told with
  | none => simp [Field.Carries, TellsCount, Blank, eq_comm]
  | some v => simp [Field.Carries, TellsCount, Blank, Shape.decode, decodeCount_normalize]

/-! ### Records -/

theorem carry_congr {get get' : String → Option Json} {fields : List Field} {row : Row fields}
    (h : ∀ f ∈ fields, get f.name = get' f.name) :
    Carry get fields row ↔ Carry get' fields row := by
  induction fields with
  | nil => exact Iff.rfl
  | cons f fs ih =>
    obtain ⟨hf, hfs⟩ := List.forall_mem_cons.mp h
    rw [Carry, Carry, hf, ih hfs]

theorem pair_eq_ok_iff {ε α β : Type} {x : Except ε α} {y : Except ε β} {a : α} {b : β} :
    (do let a ← x; let b ← y; .ok (a, b)) = Except.ok (a, b) ↔ x = .ok a ∧ y = .ok b := by
  cases x with
  | error e => exact iff_of_false (fun h => by cases h) fun h => by cases h.1
  | ok a =>
    cases y with
    | error e => exact iff_of_false (fun h => by cases h) fun h => by cases h.2
    | ok b => simp [bind, Except.bind]

theorem rowOfMembers_eq_ok_iff {fields : List Field} {members : Members} {row : Row fields} :
    rowOfMembers fields (normalMembers members) = .ok row ↔
      Carry (fun name => last? name members) fields row := by
  induction fields with
  | nil => exact iff_of_true rfl trivial
  | cons f fs ih =>
    obtain ⟨x, row⟩ := row
    rw [Carry, ← ih, rowOfMembers, Json.lookup_normalMembers]
    cases hl : last? f.name members with
    | some v => exact pair_eq_ok_iff
    | none =>
      cases ha : f.absent with
      | some d => simpa [Field.Carries, ha] using pair_eq_ok_iff (x := .ok d)
      | none => simpa [Field.Carries, ha] using pair_eq_ok_iff (x := .error _)

/-- Nothing is wrong with the members one by one when the fields can be read. -/
theorem checkMembers_eq_ok {fields : List Field} {members : Members} {seen : List String}
    (hs : Json.Sorted members) (hseen : ∀ m ∈ members, m.1 ∉ seen)
    (hv : ∀ m ∈ members, ∀ f, field? m.1 fields = some f → ∃ x, f.shape.decode m.2 = .ok x) :
    checkMembers fields seen members = .ok () := by
  induction members generalizing seen with
  | nil => rfl
  | cons m ms ih =>
    obtain ⟨key, v⟩ := m
    obtain ⟨hm, hms⟩ := List.pairwise_cons.mp hs
    obtain ⟨hkey, hrest⟩ := List.forall_mem_cons.mp hseen
    obtain ⟨hfield, hfields⟩ := List.forall_mem_cons.mp hv
    simp only [checkMembers]
    cases hf : field? key fields with
    | none => exact ih hms hrest hfields
    | some f =>
      obtain ⟨x, hx⟩ := hfield f hf
      have hnext : ∀ n ∈ ms, n.1 ∉ key :: seen := by
        intro n hn hc
        rcases List.mem_cons.mp hc with he | hc
        · exact String.lt_irrefl key (he ▸ hm n hn)
        · exact hrest n hn hc
      simp only [List.contains_eq_mem, hkey, decide_false, Bool.false_eq_true, if_false, hx]
      exact ih hms hnext hfields

theorem Carry.decodes {get : String → Option Json} {fields : List Field} {row : Row fields}
    (h : Carry get fields row) {f : Field} (hf : f ∈ fields) {v : Json}
    (hv : get f.name = some v) : ∃ x, f.shape.decode v.normalize = .ok x := by
  induction fields with
  | nil => cases hf
  | cons g fs ih =>
    obtain ⟨hg, hrow⟩ := h
    rcases List.mem_cons.mp hf with rfl | hf
    · simp only [Field.Carries, hv] at hg
      exact ⟨_, hg⟩
    · exact ih hrow hf

theorem rowOfItems_eq_ok_iff {expected : String} {index : Nat} {fields : List Field}
    (hn : (fields.map Field.name).Nodup) {items : List Json} {row : Row fields} :
    rowOfItems expected index fields (items.map Json.normalize) = .ok row ↔
      Carry (fun name => lookup name ((fields.map Field.name).zip items)) fields row := by
  induction fields generalizing index items with
  | nil => exact iff_of_true rfl trivial
  | cons f fs ih =>
    obtain ⟨x, row⟩ := row
    obtain ⟨hf, hfs⟩ := List.nodup_cons.mp hn
    cases items with
    | nil =>
      have hrest : rowOfItems expected (index + 1) fs (([] : List Json).map Json.normalize) =
          .ok row ↔ Carry (fun name => lookup name ((fs.map Field.name).zip [])) fs row := ih hfs
      rw [List.map_nil, List.zip_nil_right] at hrest
      rw [List.map_nil, List.zip_nil_right, Carry, ← hrest, rowOfItems]
      cases ha : f.absent with
      | some d => simpa [Field.Carries, lookup, ha] using pair_eq_ok_iff (x := .ok d)
      | none => simpa [Field.Carries, lookup, ha] using pair_eq_ok_iff (x := .error _)
    | cons v vs =>
      have hrest : rowOfItems expected (index + 1) fs (vs.map Json.normalize) = .ok row ↔
          Carry (fun name => lookup name ((fs.map Field.name).zip vs)) fs row := ih hfs
      -- the names of the other fields differ from the first, so its item is none of theirs
      have hother : ∀ g ∈ fs, lookup g.name ((f.name :: fs.map Field.name).zip (v :: vs)) =
          lookup g.name ((fs.map Field.name).zip vs) := by
        intro g hg
        have hne : f.name ≠ g.name := fun he => hf (he ▸ List.mem_map_of_mem hg)
        simp [lookup, hne]
      have hiff :
          Carry (fun name => lookup name ((f.name :: fs.map Field.name).zip (v :: vs))) fs row ↔
            Carry (fun name => lookup name ((fs.map Field.name).zip vs)) fs row :=
        carry_congr hother
      rw [List.map_cons, List.map_cons, Carry, hiff, ← hrest, rowOfItems]
      simpa [Field.Carries, lookup] using pair_eq_ok_iff

/-- A record is decoded exactly from what is told of its fields. -/
theorem Schema.decode_eq_ok_iff {s : Schema} (hn : (s.fields.map Field.name).Nodup)
    {setting : Setting} {v : Json} {row : Row s.fields} :
    s.decode setting v.normalize = .ok row ↔
      ∃ get, Tells (s.fields.map Field.name) v get ∧ Carry get s.fields row := by
  cases v with
  | object members =>
    have hiff : s.decode setting (Json.normalize (.object members)) = .ok row ↔
        Carry (fun name => last? name members) s.fields row := by
      rw [Json.normalize_object, Schema.decode, ← rowOfMembers_eq_ok_iff]
      constructor
      · intro h
        cases hc : checkMembers s.fields [] (normalMembers members) with
        | error e => simp [hc, bind, Except.bind] at h
        | ok u => simpa [hc, bind, Except.bind] using h
      · intro h
        have hcarry := rowOfMembers_eq_ok_iff.mp h
        -- the members are looked at before the row, by the same rules
        have hcheck : checkMembers s.fields [] (normalMembers members) = .ok () := by
          refine checkMembers_eq_ok (Json.sorted_normalMembers members) (by simp) ?_
          intro m hm f hf
          have hl := (Json.sorted_normalMembers members).lookup_of_mem hm
          rw [Json.lookup_normalMembers] at hl
          obtain ⟨w, hw, hm⟩ := Option.map_eq_some_iff.mp hl
          have hname : f.name = m.1 := by simpa using List.find?_some hf
          rw [← hm]
          exact hcarry.decodes (List.mem_of_find?_eq_some hf) (hname ▸ hw)
        simpa [hcheck, bind, Except.bind] using h
    rw [hiff]
    constructor
    · exact fun h => ⟨_, .object, h⟩
    · rintro ⟨_, ⟨⟩, h⟩
      exact h
  | array items =>
    have hiff : rowOfItems s.expectedLength 0 s.fields (items.map Json.normalize) = .ok row ↔
        Carry (fun name => lookup name ((s.fields.map Field.name).zip items)) s.fields row :=
      rowOfItems_eq_ok_iff hn
    have hlen : s.fields.length < (items.map Json.normalize).length ↔
        ¬ items.length ≤ (s.fields.map Field.name).length := by simp
    rw [Json.normalize_array, Schema.decode]
    constructor
    · intro h
      cases hr : rowOfItems s.expectedLength 0 s.fields (items.map Json.normalize) with
      | error e => simp [hr, bind, Except.bind] at h
      | ok r =>
        simp only [hr, bind, Except.bind, hlen] at h
        split at h
        · cases h
        · next hle =>
          cases h
          exact ⟨_, .array (Decidable.not_not.mp hle), hiff.mp hr⟩
    · rintro ⟨_, ht, h⟩
      cases ht with
      | array hle =>
        simp only [hiff.mpr h, bind, Except.bind, hlen]
        rw [if_neg (not_not_intro hle)]
  | _ =>
    refine iff_of_false (fun h => by cases h) ?_
    rintro ⟨_, ⟨⟩, -⟩

theorem Format.decode_eq_ok_iff {α : Type} {f : Format α}
    (hn : (f.schema.fields.map Field.name).Nodup) {setting : Setting} {v : Json} {a : α} :
    f.decode setting v.normalize = .ok a ↔
      ∃ get row, Tells (f.schema.fields.map Field.name) v get ∧
        Carry get f.schema.fields row ∧ f.ofRow row = a := by
  rw [Format.decode]
  constructor
  · intro h
    cases hr : f.schema.decode setting v.normalize with
    | error e => simp [hr, Except.map] at h
    | ok row =>
      obtain ⟨get, ht, hc⟩ := (Schema.decode_eq_ok_iff hn).mp hr
      exact ⟨get, row, ht, hc, by simpa [hr, Except.map] using h⟩
  · rintro ⟨get, row, ht, hc, rfl⟩
    rw [(Schema.decode_eq_ok_iff hn).mpr ⟨get, ht, hc⟩]
    rfl

end PipelineWatch.Record
