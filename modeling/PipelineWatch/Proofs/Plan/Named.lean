import PipelineWatch.Proofs.Plan.View
import PipelineWatch.Proofs.Text.Blank
import PipelineWatch.Proofs.Text.Utf8

/-!
Plans that are asked for by their own name. An event names its plan by any text but the empty
one, whereas a text that names a selection loses the blanks at its ends, and the word `all`
names no plan. So a known plan is followed under its own name unless it has such blanks or is
that word; or else by chance, where nothing known goes by what is left of the name and the
view falls back on just this plan.
-/
namespace PipelineWatch.Plan

open Text (Bare trim)

/-! ### The word for everything -/

/-- The word `all`, in letters of any size. -/
inductive SaysAll : List Char → Prop where
  | mk {a l l' : Char} (first : a = 'a' ∨ a = 'A') (second : l = 'l' ∨ l = 'L')
      (third : l' = 'l' ∨ l' = 'L') : SaysAll [a, l, l']

/-- A small letter is what it and the capital letter become. -/
theorem lowerAscii_eq_iff {c d : Char} (small : 'a' ≤ d ∧ d ≤ 'z') :
    Text.lowerAscii c = d ↔ c = d ∨ c.toNat + 32 = d.toNat := by
  have between : ∀ {x y z : Char}, x ≤ y ∧ y ≤ z ↔ x.toNat ≤ y.toNat ∧ y.toNat ≤ z.toNat :=
    Iff.rfl
  rw [between] at small
  simp only [Char.reduceToNat] at small
  unfold Text.lowerAscii
  split
  · next capital =>
    rw [between] at capital
    simp only [Char.reduceToNat] at capital
    have moved : (Char.ofNat (c.toNat + 32)).toNat = c.toNat + 32 :=
      Text.Utf8.toNat_charOfNat (.inl (by omega))
    rw [← Char.toNat_inj, ← Char.toNat_inj, moved]
    omega
  · next other =>
    rw [between] at other
    simp only [Char.reduceToNat] at other
    rw [← Char.toNat_inj]
    omega

theorem toLowerAscii_eq_all_iff {s : String} : Text.toLowerAscii s = "all" ↔ SaysAll s.toList := by
  have letter : ∀ {c d u : Char}, 'a' ≤ d ∧ d ≤ 'z' → u.toNat + 32 = d.toNat →
      (Text.lowerAscii c = d ↔ c = d ∨ c = u) := by
    intro c d u small capital
    rw [lowerAscii_eq_iff small, ← capital, Nat.add_right_cancel_iff, Char.toNat_inj]
  have a : ∀ {c}, Text.lowerAscii c = 'a' ↔ c = 'a' ∨ c = 'A' := letter (by decide) (by decide)
  have l : ∀ {c}, Text.lowerAscii c = 'l' ↔ c = 'l' ∨ c = 'L' := letter (by decide) (by decide)
  have word : "all".toList = ['a', 'l', 'l'] := rfl
  rw [Text.toLowerAscii, ← String.toList_inj, String.toList_ofList, word]
  generalize s.toList = cs
  constructor
  · intro h
    obtain ⟨x, cs, rfl, hx, h⟩ := List.map_eq_cons_iff.mp h
    obtain ⟨y, cs, rfl, hy, h⟩ := List.map_eq_cons_iff.mp h
    obtain ⟨z, cs, rfl, hz, h⟩ := List.map_eq_cons_iff.mp h
    obtain rfl := List.map_eq_nil_iff.mp h
    exact .mk (a.mp hx) (l.mp hy) (l.mp hz)
  · rintro ⟨first, second, third⟩
    simp [a.mpr first, l.mpr second, l.mpr third]

instance (s : String) : Decidable (SaysAll s.toList) :=
  decidable_of_iff _ toLowerAscii_eq_all_iff

/-! ### What a text selects -/

/-- What is left of the text names no single plan. -/
def NamesAll (s : String) : Prop :=
  trim s = "" ∨ SaysAll (trim s).toList

instance (s : String) : Decidable (NamesAll s) :=
  inferInstanceAs (Decidable (_ ∨ _))

theorem parse_of_namesAll {s : String} (h : NamesAll s) : Selection.parse s = .all := by
  rw [NamesAll, ← toLowerAscii_eq_all_iff] at h
  simp only [Selection.parse, if_pos h]

theorem parse_of_not_namesAll {s : String} (h : ¬ NamesAll s) :
    Selection.parse s = .plan (trim s) := by
  rw [NamesAll, ← toLowerAscii_eq_all_iff] at h
  simp only [Selection.parse, if_neg h]

/-- What a view of these events has selected when the text was asked for. -/
def selectedBy (events : List Event) (s : String) : Selection :=
  (View.derive events (Selection.parse s)).selection

variable {events : List Event} {s : String}

theorem selectedBy_of_namesAll (h : NamesAll s) : selectedBy events s = .all := by
  simp only [selectedBy, View.derive, parse_of_namesAll h]
  rfl

theorem selectedBy_of_known (h : ¬ NamesAll s) (there : trim s ∈ known events) :
    selectedBy events s = .plan (trim s) := by
  simp only [selectedBy, View.derive, parse_of_not_namesAll h]
  apply Selection.reconcile_of_isKnown
  intro id same
  cases same
  exact there

theorem selectedBy_of_not_known (h : ¬ NamesAll s) (absent : trim s ∉ known events) :
    selectedBy events s = Selection.fallback (known events) := by
  simp only [selectedBy, View.derive, parse_of_not_namesAll h]
  apply Selection.reconcile_of_not_isKnown
  intro there
  exact absent (there _ rfl)

theorem ne_empty_of_mem_known {id : String} (h : id ∈ known events) : id ≠ "" := by
  obtain ⟨e, -, belongs⟩ := mem_known_iff.mp h
  cases belongs with
  | named h => exact h.ne_empty
  | replaced _ h => exact h.ne_empty

/-! ### Plans by their own name -/

/-- The plan stands for itself: its name has no blank at either end and is not the word for
everything. -/
def NamesItself (id : String) : Prop :=
  Bare id.toList ∧ ¬ SaysAll id.toList

instance (id : String) : Decidable (NamesItself id) :=
  inferInstanceAs (Decidable (_ ∧ _))

/-- Nothing known goes by what is left of the name, and the plan is the first of those known. -/
def FoundByChance (events : List Event) (id : String) : Prop :=
  ¬ NamesAll id ∧ trim id ∉ known events ∧ (known events).head? = some id

instance (events : List Event) (id : String) : Decidable (FoundByChance events id) :=
  inferInstanceAs (Decidable (_ ∧ _))

/-- What is true of the view that a known plan leads to when it is asked for by its name. -/
structure ByName (events : List Event) (id : String) (v : View) : Prop where
  /-- The plan is followed if it stands for itself, or else by chance. -/
  followed : v.selection = .plan id ↔ NamesItself id ∨ FoundByChance events id
  /-- Its events are shown then, in their order. -/
  shown : v.selection = .plan id → v.events = events.filter fun e => e.BelongsTo id
  /-- Otherwise what is left of the name decides: it may stand for everything, -/
  all : NamesAll id → v.selection = .all
  /-- be another known plan, -/
  other : ¬ NamesAll id → trim id ∈ known events → v.selection = .plan (trim id)
  /-- or be neither, and then the first known plan is followed. -/
  first : ¬ NamesAll id → trim id ∉ known events →
    ∃ first, (known events).head? = some first ∧ v.selection = .plan first

theorem namesItself_iff {id : String} (h : id ≠ "") :
    NamesItself id ↔ ¬ NamesAll id ∧ trim id = id := by
  rw [NamesItself, ← Text.trim_eq_self_iff, and_comm]
  refine and_congr_left fun same => ?_
  rw [NamesAll, same, or_iff_right h]

theorem fallback_eq_plan_iff {known : List String} {id : String} :
    Selection.fallback known = .plan id ↔ known.head? = some id := by
  cases known <;> simp [Selection.fallback]

/-- A known plan is selected under its name if it stands for itself, or else by chance. -/
theorem selectedBy_eq_plan_iff {id : String} (h : id ∈ known events) :
    selectedBy events id = .plan id ↔ NamesItself id ∨ FoundByChance events id := by
  rw [namesItself_iff (ne_empty_of_mem_known h), FoundByChance]
  by_cases every : NamesAll id
  · rw [selectedBy_of_namesAll every]
    simp [every]
  by_cases there : trim id ∈ known events
  · rw [selectedBy_of_known every there, Selection.plan.injEq]
    simp [every, there]
  · have other : trim id ≠ id := by
      intro same
      rw [same] at there
      exact there h
    rw [selectedBy_of_not_known every there, fallback_eq_plan_iff]
    simp [every, there, other]

/-- **Which plans can be followed by their name.** -/
theorem followed_by_name (events : List Event) (id : String) (h : id ∈ known events) :
    ByName events id (View.derive events (Selection.parse id)) where
  followed := selectedBy_eq_plan_iff h
  shown := by
    intro selected
    show events.filter (View.derive events (Selection.parse id)).selection.selects = _
    rw [selected]
    apply List.filter_congr
    intro e _
    rw [Bool.eq_iff_iff, selects_plan_iff, decide_eq_true_eq]
  all := selectedBy_of_namesAll
  other := selectedBy_of_known
  first := by
    intro every absent
    obtain ⟨first, rest, split⟩ := List.exists_cons_of_ne_nil (List.ne_nil_of_mem h)
    refine ⟨first, by rw [split]; rfl, ?_⟩
    show selectedBy events id = _
    rw [selectedBy_of_not_known every absent, split]
    rfl

/-! ### A plan with blanks around its name -/

/-- An event of the plan. -/
def eventNaming (id : String) : Event where
  id := "a"
  kind := .planCreated
  version := Event.defaultVersion
  timestamp := ""
  producer := ""
  key := ""
  payload := [("plan_id", .text id)]

/-- Of the plans `" P9 "` and `" P1 "` the first one is followed, but not under its name. -/
theorem followed_by_name_blanks :
    " P9 " ∈ known [eventNaming " P9 ", eventNaming " P1 "] ∧
      ByName [eventNaming " P9 ", eventNaming " P1 "] " P9 "
        (View.derive [eventNaming " P9 ", eventNaming " P1 "] (Selection.parse " P9 ")) ∧
      ¬ NamesItself " P9 " ∧ FoundByChance [eventNaming " P9 ", eventNaming " P1 "] " P9 " :=
  ⟨by decide, followed_by_name _ _ (by decide), by decide +kernel, by decide +kernel⟩

end PipelineWatch.Plan
