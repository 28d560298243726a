import PipelineWatch.Proofs.Decimal.Layout
import PipelineWatch.Proofs.Decimal.Shortest

/-!
The notation of the producers. A number is `d₁.d₂… * 10 ^ e` with as few digits as read
back; which notation it gets depends on `e` alone, and either one denotes that decimal.
-/
namespace PipelineWatch.Decimal

/-! ### The two notations -/

/-- Digits with one point among them, and one at least on each side of it. -/
inductive Positional : List Char → Prop where
  | mk {whole fraction : List Char} : whole ≠ [] → fraction ≠ [] →
      (∀ c ∈ whole ++ fraction, c.isDigit = true) → Positional (whole ++ '.' :: fraction)

/-- One digit, the others behind a point if there are any, and an exponent that has a sign and
two digits at least. -/
inductive Scientific : List Char → Prop where
  | mk {d sign : Char} {ds power : List Char} : (∀ c ∈ d :: ds ++ power, c.isDigit = true) →
      sign = '+' ∨ sign = '-' → 2 ≤ power.length →
      Scientific (d :: behindFirst ds ++ 'e' :: sign :: power)

theorem Positional.not_scientific {cs : List Char} (h : Positional cs) : ¬ Scientific cs := by
  intro hs
  obtain ⟨-, -, hd⟩ := h
  generalize heq : _ ++ '.' :: _ = cs at hs
  obtain ⟨-, -, -⟩ := hs
  -- the mark of the exponent is no part of positional notation
  refine (inMantissa_point hd 'e' ?_).ne_mark rfl
  rw [heq]
  simp

/-! ### The digits of a number -/

/-- The digits of the shortest decimal that reads back. -/
def significantDigits (x : Binary64) : List Char :=
  if x.isZero then ['0'] else Nat.toDigits 10 (shortest .up x).digits

/-- The exponent of the first of these digits. -/
def leadingExponent (x : Binary64) : Int :=
  if x.isZero then 0
  else (shortest .up x).power + ((significantDigits x).length - 1 : Nat)

variable {x : Binary64}

theorem significantDigits_ne_nil (x : Binary64) : significantDigits x ≠ [] := by
  rw [significantDigits]
  split
  · simp
  · exact Nat.toDigits_ne_nil

theorem isDigit_significantDigits (x : Binary64) :
    ∀ c ∈ significantDigits x, c.isDigit = true := by
  rw [significantDigits]
  split
  · exact isDigit_singleton (by decide)
  · exact fun _ => Text.isDigit_toDigits

/-- No zero comes first, but that of the number zero. -/
theorem head?_significantDigits (x : Binary64) :
    (significantDigits x).head? = some '0' ↔ x.isZero = true := by
  rw [significantDigits]
  cases hx : x.isZero with
  | true => simp
  | false =>
    refine iff_of_false (fun h => ?_) (by simp)
    obtain ⟨ds, hds⟩ := List.head?_eq_some_iff.mp h
    exact Text.toDigits_head_ne_zero (shortest_digits_pos hx .up).ne' hds rfl

/-- No zero comes last, but that of the number zero. -/
theorem getLast?_significantDigits (x : Binary64) :
    (significantDigits x).getLast? = some '0' ↔ x.isZero = true := by
  rw [significantDigits]
  cases hx : x.isZero with
  | true => simp
  | false =>
    have hmod := shortest_digits_mod hx .up
    have hlast : ∀ k : Fin 10, k.val ≠ 0 → Nat.digitChar k.val ≠ '0' := by decide
    have hne := hlast ⟨(shortest .up x).digits % 10, Nat.mod_lt _ (by decide)⟩ hmod
    refine iff_of_false (fun h => hne ?_) (by simp)
    rw [if_neg (by simp), Text.getLast?_toDigits] at h
    exact Option.some.inj h

theorem lastPlace_significantDigits (hx : x.isZero = false) :
    lastPlace (significantDigits x) (leadingExponent x) = (shortest .up x).power := by
  rw [lastPlace, leadingExponent, hx, if_neg (by simp)]
  omega

/-- The digits are 18 at most. -/
theorem ofDigitChars_significantDigits_lt (x : Binary64) :
    Nat.ofDigitChars 10 (significantDigits x) 0 < 2 ^ 57 := by
  rw [significantDigits]
  cases hx : x.isZero with
  | true => exact (by decide : Nat.ofDigitChars 10 ['0'] 0 < 2 ^ 57)
  | false =>
    rw [if_neg (by simp), Nat.ofDigitChars_ten_toDigits]
    exact shortest_digits_lt hx .up

/-- The first digit of a finite number stands between that of the least and that of the
largest one, give or take its 18 digits. -/
theorem leadingExponent_bounds (hx : x.isFinite = true) :
    -1074 ≤ leadingExponent x ∧ leadingExponent x ≤ 325 := by
  rw [leadingExponent]
  cases hz : x.isZero with
  | true => exact ⟨by simp, by simp⟩
  | false =>
    have hlow := le_shortest_power hz .up
    have hhigh := shortest_power_le hz .up hx
    have hlt : (shortest .up x).digits < 10 ^ 18 :=
      Nat.lt_of_lt_of_le (shortest_digits_lt hz .up) (by decide)
    have hlen := (Nat.length_toDigits_le_iff (by decide) (by decide)).mpr hlt
    have hdigits : significantDigits x = Nat.toDigits 10 (shortest .up x).digits := by
      rw [significantDigits, hz]
      rfl
    rw [if_neg (by simp), hdigits]
    omega

theorem body_producer (x : Binary64) :
    Layout.producer.body x =
      if -4 ≤ leadingExponent x ∧ leadingExponent x < 16 then
        positional (significantDigits x) (leadingExponent x)
      else scientific 2 (significantDigits x) (leadingExponent x) := by
  rw [Layout.body, leadingExponent, significantDigits]
  cases x.isZero with
  | true => rfl
  | false => rfl

theorem denotes_body_eq (x : Binary64) :
    denotes (Layout.producer.body x) = Nat.ofDigitChars 10 (significantDigits x) 0 *
      10 ^ lastPlace (significantDigits x) (leadingExponent x) := by
  have hd := isDigit_significantDigits x
  rw [body_producer]
  split
  · exact denotes_positional hd (significantDigits_ne_nil x) _
  · obtain ⟨d, ds, hds⟩ := List.exists_cons_of_ne_nil (significantDigits_ne_nil x)
    rw [hds] at hd ⊢
    exact denotes_scientific hd 2 _

/-- The text denotes `d₁.d₂… * 10 ^ e`. -/
theorem denotes_body (x : Binary64) :
    denotes (Layout.producer.body x) =
      Nat.ofDigitChars 10 (significantDigits x) 0 / 10 ^ ((significantDigits x).length - 1) *
        10 ^ leadingExponent x := by
  rw [denotes_body_eq, lastPlace, zpow_sub₀ (by norm_num), zpow_natCast, div_mul_eq_mul_div,
    mul_div_assoc]

/-- The text is in positional notation for these exponents, and in scientific notation for all
others. -/
theorem body_notation (x : Binary64) :
    (-4 ≤ leadingExponent x ∧ leadingExponent x < 16 → Positional (Layout.producer.body x)) ∧
      (¬ (-4 ≤ leadingExponent x ∧ leadingExponent x < 16) →
        Scientific (Layout.producer.body x)) := by
  have hd := isDigit_significantDigits x
  rw [body_producer]
  refine ⟨fun h => ?_, fun h => ?_⟩
  · obtain ⟨whole, fraction, hp⟩ :=
      exists_pointed hd (significantDigits_ne_nil x) (leadingExponent x)
    rw [if_pos h, hp.text]
    exact .mk hp.whole_ne_nil hp.fraction_ne_nil hp.isDigit
  · obtain ⟨d, ds, hds⟩ := List.exists_cons_of_ne_nil (significantDigits_ne_nil x)
    rw [hds] at hd
    rw [if_neg h, hds, scientific_cons]
    refine .mk (List.forall_mem_append.mpr ⟨hd, isDigit_exponentDigits 2 _⟩) ?_
      (le_length_exponentDigits 2 _)
    rw [exponentSign]
    split
    · exact .inr rfl
    · exact .inl rfl

theorem positional_iff (x : Binary64) :
    Positional (Layout.producer.body x) ↔ -4 ≤ leadingExponent x ∧ leadingExponent x < 16 := by
  obtain ⟨hpositional, hscientific⟩ := body_notation x
  refine ⟨fun h => ?_, hpositional⟩
  by_contra he
  exact h.not_scientific (hscientific he)

theorem scientific_iff (x : Binary64) :
    Scientific (Layout.producer.body x) ↔
      ¬ (-4 ≤ leadingExponent x ∧ leadingExponent x < 16) := by
  obtain ⟨hpositional, hscientific⟩ := body_notation x
  exact ⟨fun h he => (hpositional he).not_scientific h, hscientific⟩

/-- Where the point falls among the digits it cuts them in two, and neither part is empty. -/
theorem body_cut {n : Nat} (he : leadingExponent x = n) (hn : n < 16)
    (hlen : n + 1 < (significantDigits x).length) :
    ∃ whole fraction, significantDigits x = whole ++ fraction ∧ whole.length = n + 1 ∧
      fraction ≠ [] ∧ Layout.producer.body x = whole ++ '.' :: fraction := by
  refine ⟨(significantDigits x).take (n + 1), (significantDigits x).drop (n + 1),
    (List.take_append_drop ..).symm, ?_, ?_, ?_⟩
  · rw [List.length_take]
    omega
  · rw [← List.length_pos_iff, List.length_drop]
    omega
  · rw [body_producer, if_pos (by omega), positional, if_neg (by omega), he, Int.toNat_natCast,
      if_neg (by omega)]

/-! ### Signs -/

/-- The number that a text denotes, with a minus in front or without one. -/
def denotesSigned : List Char → ℚ
  | '-' :: cs => -denotes cs
  | cs => denotes cs

theorem denotesSigned_write (hx : x.isFinite = true) (l : Layout) :
    denotesSigned (l.write x).toList =
      (if x.negative then -1 else 1) * denotes (l.body x) := by
  obtain ⟨d, ds, hds, hd⟩ := (fractional_body l x).head
  have hminus : d ≠ '-' := ne_of_isDigit hd (by decide)
  rw [write_finite hx, signOf]
  cases x.negative with
  | true => exact (neg_one_mul _).symm
  | false =>
    rw [hds]
    simp [denotesSigned, hminus]

end PipelineWatch.Decimal
