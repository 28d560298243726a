import PipelineWatch.Proofs.Text.Digits
import PipelineWatch.Text.Natural

/-!
Which texts write which numbers of 64 bits.
-/
namespace PipelineWatch.Text

/-- The text is at most one `+` and then digits, and these have a value of 64 bits. -/
def Writes (s : String) (n : Nat) : Prop :=
  ∃ ds, (s.toList = ds ∨ s.toList = '+' :: ds) ∧ ds ≠ [] ∧ (∀ c ∈ ds, c.isDigit = true) ∧
    Nat.ofDigitChars 10 ds 0 = n ∧ n < wordSize

theorem digit?_eq_some_iff {c : Char} {d : Nat} :
    digit? c = some d ↔ c.isDigit = true ∧ d = c.toNat - '0'.toNat := by
  have hle : ('0' ≤ c ∧ c ≤ '9') ↔ c.isDigit = true := by
    rw [isDigit_iff, Char.le_def, Char.le_def, UInt32.le_iff_toNat_le, UInt32.le_iff_toNat_le]
    exact Iff.rfl
  rw [digit?]
  by_cases h : c.isDigit = true
  · rw [if_pos (hle.mpr h), and_iff_right h, Option.some.injEq, eq_comm]
  · rw [if_neg (mt hle.mp h)]
    exact iff_of_false (fun hn => by cases hn) fun hd => h hd.1

theorem naturalDigits_eq_ok_iff {value n : Nat} (hv : value < wordSize) {cs : List Char} :
    naturalDigits value cs = .ok n ↔
      (∀ c ∈ cs, c.isDigit = true) ∧ Nat.ofDigitChars 10 cs value = n ∧ n < wordSize := by
  induction cs generalizing value with
  | nil =>
    simp only [naturalDigits, Except.ok.injEq, List.not_mem_nil, false_imp_iff, implies_true,
      Nat.ofDigitChars_nil, true_and]
    exact ⟨fun h => ⟨h, h ▸ hv⟩, And.left⟩
  | cons c cs ih =>
    rw [naturalDigits, Nat.ofDigitChars_cons, List.forall_mem_cons, Nat.mul_comm 10 value]
    cases hd : digit? c with
    | none =>
      refine iff_of_false (fun h => by cases h) fun h => ?_
      rw [digit?_eq_some_iff.mpr ⟨h.1.1, rfl⟩] at hd
      cases hd
    | some d =>
      obtain ⟨hc, rfl⟩ := digit?_eq_some_iff.mp hd
      have hle := le_ofDigitChars cs (value * 10 + (c.toNat - '0'.toNat))
      simp only
      split
      · next hlt => rw [ih hlt, and_iff_right hc]
      · next hge =>
        refine iff_of_false (fun h => by cases h) fun h => hge ?_
        exact Nat.lt_of_le_of_lt (h.2.1 ▸ hle) h.2.2

/-- The reader of numbers takes exactly the texts that write them. -/
theorem natural?_eq_ok_iff {s : String} {n : Nat} : natural? s = .ok n ↔ Writes s n := by
  have hzero : 0 < wordSize := by decide
  have hplus : '+'.isDigit = false := by decide
  rw [natural?, Writes]
  generalize s.toList = cs
  split
  · refine iff_of_false (fun h => by cases h) ?_
    rintro ⟨ds, rfl | h, hne, -⟩
    · exact hne rfl
    · cases h
  · refine iff_of_false (fun h => by cases h) ?_
    rintro ⟨ds, rfl | h, hne, hd, -⟩
    · exact absurd (hd '+' (List.mem_singleton.mpr rfl)) (by simp [hplus])
    · exact hne (List.cons.inj h).2.symm
  · next cs hne =>
    rw [naturalDigits_eq_ok_iff hzero]
    constructor
    · rintro ⟨hd, hv⟩
      exact ⟨cs, .inr rfl, fun he => hne (he ▸ rfl), hd, hv⟩
    · rintro ⟨ds, rfl | h, -, hd, hv⟩
      · exact absurd (hd '+' (List.mem_cons_self ..)) (by simp [hplus])
      · obtain rfl := (List.cons.inj h).2
        exact ⟨hd, hv⟩
  · next hnil _ hsign =>
    rw [naturalDigits_eq_ok_iff hzero]
    constructor
    · rintro ⟨hd, hv⟩
      exact ⟨_, .inl rfl, hnil, hd, hv⟩
    · rintro ⟨ds, rfl | h, -, hd, hv⟩
      · exact ⟨hd, hv⟩
      · exact absurd h (hsign ds)

end PipelineWatch.Text
