import PipelineWatch.Text.Blank

/-!
Trimming takes the blanks off both ends of a text and nothing else. What is left has no blank
at either end, and a text that has none there is left as it is.
-/
namespace PipelineWatch.Text

/-- Nothing but blanks. -/
def Blanks (cs : List Char) : Prop :=
  ∀ c ∈ cs, isBlank c = true

instance (cs : List Char) : Decidable (Blanks cs) :=
  inferInstanceAs (Decidable (∀ c ∈ cs, isBlank c = true))

/-- There is no blank at either end. -/
structure Bare (cs : List Char) : Prop where
  front : ∀ c ∈ cs.head?, isBlank c = false
  back : ∀ c ∈ cs.getLast?, isBlank c = false

theorem bare_iff {cs : List Char} :
    Bare cs ↔ cs.head?.all (!isBlank ·) = true ∧ cs.getLast?.all (!isBlank ·) = true := by
  have all : ∀ o : Option Char, (∀ c ∈ o, isBlank c = false) ↔ o.all (!isBlank ·) = true := by
    intro o
    cases o <;> simp
  rw [← all, ← all]
  exact ⟨fun h => ⟨h.front, h.back⟩, fun h => ⟨h.1, h.2⟩⟩

instance (cs : List Char) : Decidable (Bare cs) :=
  decidable_of_iff _ bare_iff.symm

theorem bare_of_forall {cs : List Char} (h : ∀ c ∈ cs, isBlank c = false) : Bare cs where
  front := fun c hc => h c (List.mem_of_mem_head? hc)
  back := fun c hc => h c (List.mem_of_mem_getLast? hc)

theorem trimFront_append {as : List Char} (h : Blanks as) (cs : List Char) :
    trimFront (as ++ cs) = trimFront cs :=
  List.dropWhile_append_of_pos h

theorem trimFront_of_front {cs : List Char} (h : ∀ c ∈ cs.head?, isBlank c = false) :
    trimFront cs = cs := by
  cases cs with
  | nil => rfl
  | cons c cs =>
    have first := h c rfl
    simp [trimFront, first]

theorem exists_trimFront (cs : List Char) :
    ∃ as, Blanks as ∧ cs = as ++ trimFront cs ∧ ∀ c ∈ (trimFront cs).head?, isBlank c = false := by
  refine ⟨cs.takeWhile isBlank, ?_, List.takeWhile_append_dropWhile.symm, ?_⟩
  · intro c hc
    exact List.all_eq_true.mp List.all_takeWhile c hc
  · intro c hc
    have kept := List.head?_dropWhile_not isBlank cs
    rw [trimFront] at hc
    rw [Option.mem_def.mp hc] at kept
    simpa using kept

/-- A text is what is left of it with blanks at both ends. -/
theorem exists_trimChars (cs : List Char) :
    ∃ as zs, Blanks as ∧ Blanks zs ∧ cs = as ++ (trimChars cs ++ zs) ∧ Bare (trimChars cs) := by
  obtain ⟨as, ha, split, front⟩ := exists_trimFront cs
  obtain ⟨zs, hz, split', back⟩ := exists_trimFront (trimFront cs).reverse
  have left : trimFront cs = trimChars cs ++ zs.reverse := by
    rw [trimChars, ← List.reverse_append, ← split', List.reverse_reverse]
  refine ⟨as, zs.reverse, ha, ?_, ?_, ?_, ?_⟩
  · intro c hc
    exact hz c (List.mem_reverse.mp hc)
  · rw [← left]
    exact split
  · intro c hc
    apply front
    rw [left, List.head?_append, Option.mem_def.mp hc]
    rfl
  · intro c hc
    apply back
    rwa [trimChars, List.getLast?_reverse] at hc

/-- The blanks at both ends go, and all that stands between them stays. -/
theorem trimChars_append {as cs zs : List Char} (ha : Blanks as) (hz : Blanks zs) (h : Bare cs) :
    trimChars (as ++ (cs ++ zs)) = cs := by
  have blanks : Blanks zs.reverse := by
    intro c hc
    exact hz c (List.mem_reverse.mp hc)
  rw [trimChars, trimFront_append ha]
  cases cs with
  | nil =>
    have none : trimFront zs = [] := by
      have all := trimFront_append hz []
      rwa [List.append_nil] at all
    rw [List.nil_append, none]
    rfl
  | cons c cs =>
    have first : trimFront (c :: cs ++ zs) = c :: cs ++ zs := by
      apply trimFront_of_front
      exact h.front
    have last : trimFront (c :: cs).reverse = (c :: cs).reverse := by
      apply trimFront_of_front
      rw [List.head?_reverse]
      exact h.back
    rw [first, List.reverse_append, trimFront_append blanks, last, List.reverse_reverse]

/-- More blanks at the ends make no difference to what is left. -/
theorem trimChars_blanks {as zs : List Char} (ha : Blanks as) (hz : Blanks zs) (cs : List Char) :
    trimChars (as ++ (cs ++ zs)) = trimChars cs := by
  obtain ⟨as', zs', ha', hz', split, bare⟩ := exists_trimChars cs
  have front : Blanks (as ++ as') := by
    intro c hc
    exact (List.mem_append.mp hc).elim (ha c) (ha' c)
  have back : Blanks (zs' ++ zs) := by
    intro c hc
    exact (List.mem_append.mp hc).elim (hz' c) (hz c)
  calc trimChars (as ++ (cs ++ zs))
    _ = trimChars (as ++ as' ++ (trimChars cs ++ (zs' ++ zs))) := by
        conv => lhs; rw [split]
        simp only [List.append_assoc]
    _ = trimChars cs := trimChars_append front back bare

theorem trimChars_eq_self_iff {cs : List Char} : trimChars cs = cs ↔ Bare cs := by
  constructor
  · intro same
    obtain ⟨-, -, -, -, -, bare⟩ := exists_trimChars cs
    rwa [same] at bare
  · intro bare
    have none : Blanks [] := by simp [Blanks]
    simpa using trimChars_append none none bare

/-- Trimming leaves a text as it is if there is no blank at either end, and only then. -/
theorem trim_eq_self_iff {s : String} : trim s = s ↔ Bare s.toList := by
  rw [← trimChars_eq_self_iff, trim, ← String.toList_inj, String.toList_ofList]

end PipelineWatch.Text
