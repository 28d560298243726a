import Mathlib.Data.Rat.Floor
import PipelineWatch.Proofs.Decimal.Span
import PipelineWatch.Proofs.Text.Digits

/-!
The shortest decimal that reads back as a number. The search finds a point on every grid
that has one among the reals of the number, so it stops at the coarsest of them: the last
digit is no zero, and there are no more digits than a word of 64 bits holds.
-/
namespace PipelineWatch.Decimal

open Binary64 (binadeSize unitsPerOne infinity)

namespace Span

variable {s : Span} {tie : Tie}

/-- A grid with a step of less than the width of the span has a point in it. -/
theorem exists_hasPoint {power : Int}
    (h : (10 : ℚ) ^ power * quartersPerOne < s.high - s.low) : ∃ n, s.HasPoint n power := by
  have hstep : (0 : ℚ) < 10 ^ power * quartersPerOne :=
    mul_pos (zpow_pos (by norm_num) power) (by exact_mod_cast quartersPerOne_pos)
  generalize hn : Nat.floor ((s.low : ℚ) / (10 ^ power * quartersPerOne)) = n
  have hbelow : (n : ℚ) * (10 ^ power * quartersPerOne) ≤ s.low := by
    rw [← le_div_iff₀ hstep, ← hn]
    exact Nat.floor_le (div_nonneg (Nat.cast_nonneg _) hstep.le)
  have habove : (s.low : ℚ) < (n + 1) * (10 ^ power * quartersPerOne) := by
    rw [← div_lt_iff₀ hstep, ← hn]
    exact Nat.lt_floor_add_one _
  refine ⟨n + 1, contains_of_between ?_ ?_⟩
  · push_cast
    linarith
  · push_cast
    linarith

end Span

/-! ### Numbers other than zero -/

section

open PipelineWatch.Decimal.Span (ofNumber quartersPerOne HasPoint)

variable {x : Binary64} (hx : x.isZero = false) (tie : Tie)

theorem significand_lt (x : Binary64) : x.significand.1 < 2 ^ 53 := by
  have hb := binadeSize_eq
  rw [significand_eq]
  by_cases hw : x.magnitude < binadeSize
  · rw [wordSignificand_small hw]
    dsimp only
    omega
  · have hmod := Nat.mod_lt x.magnitude (show 0 < binadeSize by omega)
    rw [wordSignificand_large hw]
    dsimp only
    omega

/-- A span is wide, measured by its upper end. -/
theorem high_le_width (x : Binary64) :
    3 * (ofNumber x).high ≤ 2 ^ 55 * ((ofNumber x).high - (ofNumber x).low) := by
  have hlt := significand_lt x
  have hhigh : (ofNumber x).high = (4 * x.significand.1 + 2) * 2 ^ x.significand.2 := rfl
  rw [Span.low_ofNumber_eq, hhigh, ← Nat.sub_mul, ← Nat.mul_assoc, ← Nat.mul_assoc]
  refine Nat.mul_le_mul_right _ ?_
  split
  · omega
  · omega

include hx

theorem low_pos : 0 < (ofNumber x).low := by
  have hne : x.magnitude ≠ 0 := by simpa [Binary64.isZero] using hx
  obtain ⟨word, hword⟩ : ∃ word, x.magnitude = word + 1 := ⟨x.magnitude - 1, by omega⟩
  have hlt := wordUnits_strictMono (Nat.lt_add_one word)
  rw [Span.ofNumber_eq, hword, Span.low_ofWord_succ]
  omega

/-- Zero is not among the reals of any other number. -/
theorem digits_pos {digits : Nat} {power : Int} (h : (ofNumber x).HasPoint digits power) :
    0 < digits := by
  refine Nat.pos_of_ne_zero fun hzero => ?_
  have hlow : ((ofNumber x).low : ℚ) ≤ 0 := by
    have hle := h.bounds.1
    rwa [hzero, Nat.cast_zero, zero_mul, zero_mul] at hle
  have hpos := low_pos hx
  exact absurd hlow (not_le.mpr (by exact_mod_cast hpos))

/-- The grid that the search starts at is too coarse for the number. -/
theorem power_lt_top {digits : Nat} {power : Int} (h : (ofNumber x).HasPoint digits power) :
    power < (Nat.toDigits 10 ((ofNumber x).high / quartersPerOne)).length := by
  by_contra hle
  obtain ⟨n, rfl⟩ : ∃ n : Nat, power = n := ⟨power.toNat, by omega⟩
  have hone : (1 : ℚ) ≤ digits := by exact_mod_cast digits_pos hx h
  have hstep : (10 : ℚ) ^ n * quartersPerOne ≤ (ofNumber x).high := by
    refine le_trans ?_ h.bounds.2.1
    rw [zpow_natCast, mul_assoc]
    exact le_mul_of_one_le_left (mul_nonneg (by positivity) (Nat.cast_nonneg _)) hone
  have hstep : 10 ^ n * quartersPerOne ≤ (ofNumber x).high := by exact_mod_cast hstep
  have hlt := Text.lt_pow_length_toDigits ((ofNumber x).high / quartersPerOne)
  have hge : 10 ^ n ≤ (ofNumber x).high / quartersPerOne :=
    (Nat.le_div_iff_mul_le Span.quartersPerOne_pos).mpr hstep
  have hpow : 10 ^ (Nat.toDigits 10 ((ofNumber x).high / quartersPerOne)).length ≤ 10 ^ n :=
    Nat.pow_le_pow_right (by decide) (by omega)
  omega

theorem shortest_hasPoint :
    (ofNumber x).HasPoint (shortest tie x).digits (shortest tie x).power :=
  shortest_contains hx tie

/-- No decimal that reads back as the number ends before the shortest one does. -/
theorem shortest_coarsest {digits : Nat} {power : Int}
    (h : (ofNumber x).HasPoint digits power) : power ≤ (shortest tie x).power := by
  have hlow := Span.low_lt_value (Span.significand_pos hx)
  have hhigh := Span.value_lt_high x
  have htop := power_lt_top hx h
  obtain ⟨m, -, hpower, -, hnone⟩ := shortest_first hx tie
  generalize (Nat.toDigits 10 ((ofNumber x).high / quartersPerOne)).length = top at *
  rw [hpower]
  by_contra hlt
  -- the grid of the other decimal came earlier in the search
  have hsome := Span.onGrid?_of_hasPoint hlow hhigh tie h
  rw [show power = top - ((top - power).toNat : Int) by omega, hnone _ (by omega)] at hsome
  cases hsome

theorem shortest_digits_pos : 0 < (shortest tie x).digits :=
  digits_pos hx (shortest_hasPoint hx tie)

/-- The last of the shortest digits is no zero. -/
theorem shortest_digits_mod : (shortest tie x).digits % 10 ≠ 0 := by
  intro hmod
  have hdigits : (shortest tie x).digits = (shortest tie x).digits / 10 * 10 := by omega
  have hcoarser : (ofNumber x).HasPoint ((shortest tie x).digits / 10)
      ((shortest tie x).power + 1) := by
    have h := shortest_hasPoint hx tie
    rw [HasPoint, hdigits, Nat.cast_mul] at h
    rw [HasPoint, zpow_add_one₀ (by norm_num)]
    convert h using 2
    push_cast
    ring
  have hle := shortest_coarsest hx tie hcoarser
  omega

/-- The last of the shortest digits stands no later than that of the finest grid, -/
theorem le_shortest_power : -1074 ≤ (shortest tie x).power := by
  obtain ⟨m, hm, hpower, -, -⟩ := shortest_first hx tie
  rw [hpower]
  omega

/-- nor before the first of the largest number. -/
theorem shortest_power_le (hfinite : x.isFinite = true) : (shortest tie x).power ≤ 308 := by
  have hmagnitude : x.magnitude ≤ infinity - 1 := by
    have hlt := Binary64.isFinite_iff.mp hfinite
    omega
  -- the exponents are variables, so that nothing computes their powers
  obtain ⟨e, he, hunits⟩ := Binary64.exists_unitsPerOne
  obtain ⟨a, b, ha, hb, hten⟩ : ∃ a b : Nat, a = 971 ∧ b = 309 ∧
      (4 * (2 ^ 53 - 1) + 2) * 2 ^ a < 10 ^ b * 4 := ⟨971, 309, rfl, rfl, by decide +kernel⟩
  have hlargest : wordSignificand (infinity - 1) = (2 ^ 53 - 1, a + e) := by
    rw [ha, he]
    decide
  by_contra hlt
  obtain ⟨n, hn⟩ : ∃ n : Nat, (shortest tie x).power = n := ⟨(shortest tie x).power.toNat, by omega⟩
  have hhigh := (shortest_hasPoint hx tie).bounds.2.1
  rw [hn, zpow_natCast] at hhigh
  have hhigh : (shortest tie x).digits * 10 ^ n * quartersPerOne ≤ (ofNumber x).high := by
    exact_mod_cast hhigh
  have hbound := hhigh.trans (Span.high_ofWord_mono hmagnitude)
  rw [Span.high_ofWord_eq, hlargest, quartersPerOne, hunits] at hbound
  have hpow : 10 ^ n * 4 * 2 ^ e ≤ (4 * (2 ^ 53 - 1) + 2) * 2 ^ a * 2 ^ e := by
    calc 10 ^ n * 4 * 2 ^ e
        ≤ (shortest tie x).digits * (10 ^ n * 4 * 2 ^ e) :=
          Nat.le_mul_of_pos_left _ (shortest_digits_pos hx tie)
      _ = (shortest tie x).digits * 10 ^ n * (4 * 2 ^ e) := by ring
      _ ≤ (4 * (2 ^ 53 - 1) + 2) * 2 ^ (a + e) := hbound
      _ = (4 * (2 ^ 53 - 1) + 2) * 2 ^ a * 2 ^ e := by rw [Nat.pow_add, Nat.mul_assoc]
  have hle : 10 ^ b ≤ 10 ^ n := Nat.pow_le_pow_right (by decide) (by omega)
  exact absurd (Nat.le_of_mul_le_mul_right hpow (Nat.two_pow_pos e))
    (Nat.not_le.mpr (hten.trans_le (Nat.mul_le_mul_right 4 hle)))

/-- The shortest digits are 18 at most. -/
theorem shortest_digits_lt : (shortest tie x).digits < 2 ^ 57 := by
  have hwidth : ((ofNumber x).high : ℚ) - (ofNumber x).low ≤
      10 ^ ((shortest tie x).power + 1) * quartersPerOne := by
    by_contra hlt
    obtain ⟨n, hn⟩ := Span.exists_hasPoint (not_le.mp hlt)
    have hle := shortest_coarsest hx tie hn
    omega
  have hbelow := (shortest_hasPoint hx tie).bounds.2.1
  have hwide := high_le_width x
  have hlow := (Span.low_lt_value (Span.significand_pos hx)).trans (Span.value_lt_high x)
  generalize (shortest tie x).digits = digits at *
  generalize (ofNumber x).high = high at *
  generalize (ofNumber x).low = low at *
  rw [zpow_add_one₀ (by norm_num)] at hwidth
  have hdigits : (digits : ℚ) * (high - low) ≤ 10 * high := by
    calc (digits : ℚ) * (high - low)
        ≤ digits * (10 ^ (shortest tie x).power * 10 * quartersPerOne) :=
          mul_le_mul_of_nonneg_left hwidth (Nat.cast_nonneg _)
      _ = 10 * (digits * 10 ^ (shortest tie x).power * quartersPerOne) := by ring
      _ ≤ 10 * high := mul_le_mul_of_nonneg_left hbelow (by norm_num)
  have hdigits : digits * (high - low) ≤ 10 * high := by
    rw [← Nat.cast_sub hlow.le] at hdigits
    exact_mod_cast hdigits
  have hpos : 0 < high - low := Nat.sub_pos_of_lt hlow
  have hle : 3 * digits * (high - low) ≤ 10 * 2 ^ 55 * (high - low) := by
    calc 3 * digits * (high - low) = 3 * (digits * (high - low)) := Nat.mul_assoc ..
      _ ≤ 3 * (10 * high) := Nat.mul_le_mul_left 3 hdigits
      _ = 10 * (3 * high) := by ring
      _ ≤ 10 * (2 ^ 55 * (high - low)) := Nat.mul_le_mul_left 10 hwide
      _ = 10 * 2 ^ 55 * (high - low) := (Nat.mul_assoc ..).symm
  have hle := Nat.le_of_mul_le_mul_right hle hpos
  omega

end

end PipelineWatch.Decimal
