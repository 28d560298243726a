import Mathlib.Algebra.Order.Field.Basic
import Mathlib.Algebra.Order.Ring.Rat
import Mathlib.Order.Monotone.Basic
import Mathlib.Tactic.FieldSimp
import Mathlib.Tactic.Linarith
import Mathlib.Tactic.NormNum
import Mathlib.Tactic.Positivity
import Mathlib.Tactic.Ring
import PipelineWatch.Decimal.Shortest

/-!
The reals that round to a number. The magnitudes rise with their words, and the reals of a
number reach half the way to its two neighbours, so no real rounds to two numbers. The
decimal that is written for a number is one of the reals of that number.
-/
namespace PipelineWatch.Decimal

open Binary64 (binadeSize)

/-! ### Magnitudes by their words -/

/-- `m` and `k` of the magnitude `m * 2 ^ k` of a word. -/
def wordSignificand (word : Nat) : Nat × Nat :=
  if word < binadeSize then (word, 0)
  else (binadeSize + word % binadeSize, word / binadeSize - 1)

/-- The magnitude of a word, in units. -/
def wordUnits (word : Nat) : Nat :=
  (wordSignificand word).1 * 2 ^ (wordSignificand word).2

theorem significand_eq (x : Binary64) : x.significand = wordSignificand x.magnitude := rfl

theorem binadeSize_eq : binadeSize = 4503599627370496 := rfl

theorem wordSignificand_small {word : Nat} (h : word < binadeSize) :
    wordSignificand word = (word, 0) := if_pos h

theorem wordSignificand_large {word : Nat} (h : ¬ word < binadeSize) :
    wordSignificand word = (binadeSize + word % binadeSize, word / binadeSize - 1) := if_neg h

/-- What becomes of `m` and `k` from one word to the next. -/
theorem wordSignificand_succ (word : Nat) :
    wordSignificand (word + 1) = ((wordSignificand word).1 + 1, (wordSignificand word).2) ∨
      (wordSignificand word).1 + 1 = 2 * binadeSize ∧
        wordSignificand (word + 1) = (binadeSize, (wordSignificand word).2 + 1) := by
  have hb := binadeSize_eq
  by_cases hs : word + 1 < binadeSize
  · rw [wordSignificand_small hs, wordSignificand_small (by omega)]
    exact .inl rfl
  by_cases hw : word < binadeSize
  · rw [wordSignificand_large hs, wordSignificand_small hw]
    refine .inl (Prod.ext ?_ ?_) <;> dsimp only <;> rw [hb] at * <;> omega
  · rw [wordSignificand_large hs, wordSignificand_large hw]
    by_cases hm : word % binadeSize + 1 = binadeSize
    · refine .inr ⟨?_, Prod.ext ?_ ?_⟩ <;> dsimp only <;> rw [hb] at * <;> omega
    · refine .inl (Prod.ext ?_ ?_) <;> dsimp only <;> rw [hb] at * <;> omega

theorem wordUnits_succ (word : Nat) :
    wordUnits (word + 1) = wordUnits word + 2 ^ (wordSignificand word).2 := by
  rw [wordUnits, wordUnits]
  rcases wordSignificand_succ word with h | ⟨hm, h⟩
  · rw [h]
    ring
  · rw [h]
    dsimp only
    calc binadeSize * 2 ^ ((wordSignificand word).2 + 1)
        = 2 * binadeSize * 2 ^ (wordSignificand word).2 := by ring
      _ = ((wordSignificand word).1 + 1) * 2 ^ (wordSignificand word).2 := by rw [hm]
      _ = _ := by ring

/-- A larger word is a larger magnitude. -/
theorem wordUnits_strictMono : StrictMono wordUnits :=
  strictMono_nat_of_lt_succ fun word => by
    rw [wordUnits_succ]
    exact Nat.lt_add_of_pos_right (Nat.pow_pos (by decide))

theorem le_wordSignificand {word : Nat} (h : 0 < (wordSignificand word).2) :
    binadeSize ≤ (wordSignificand word).1 := by
  by_cases hw : word < binadeSize
  · rw [wordSignificand_small hw] at h
    exact absurd h (Nat.lt_irrefl 0)
  · rw [wordSignificand_large hw]
    exact Nat.le_add_right ..

theorem wordSignificand_odd (word : Nat) : (wordSignificand word).1 % 2 = word % 2 := by
  have hb := binadeSize_eq
  by_cases hw : word < binadeSize
  · rw [wordSignificand_small hw]
  · rw [wordSignificand_large hw]
    dsimp only
    rw [hb] at *
    omega

/-! ### Numbers by sign and word -/

/-- How many units make one. The exponent is a variable, so that nothing computes its power. -/
theorem Binary64.exists_unitsPerOne : ∃ e, e = 1074 ∧ unitsPerOne = 2 ^ e := by
  refine ⟨1074, rfl, ?_⟩
  delta unitsPerOne
  generalize 1074 = e
  rfl

theorem Binary64.isFinite_iff {x : Binary64} : x.isFinite = true ↔ x.magnitude < infinity :=
  decide_eq_true_iff

theorem bits_eq (x : Binary64) :
    x.bits.toNat = (if x.negative then Binary64.signWord else 0) + x.magnitude := by
  have hlt := x.bits.toNat_lt
  have hsign : Binary64.signWord = 2 ^ 63 := rfl
  simp only [Binary64.negative, Binary64.magnitude, hsign, decide_eq_true_eq]
  split <;> omega

theorem eq_of_magnitude {x y : Binary64} (hs : x.negative = y.negative)
    (hm : x.magnitude = y.magnitude) : x = y := by
  have hbits : x.bits.toNat = y.bits.toNat := by rw [bits_eq, bits_eq, hs, hm]
  obtain ⟨bits⟩ := x
  obtain ⟨bits'⟩ := y
  exact congrArg Binary64.mk (UInt64.toNat_inj.mp hbits)

/-! ### Spans -/

namespace Span

/-- The reals that round to the magnitude of a word. -/
def ofWord (word : Nat) : Span :=
  let (m, k) := wordSignificand word
  let step := Nat.pow 2 k
  let below := if m = binadeSize ∧ 0 < k then 1 else 2
  { low := (4 * m - below) * step
    value := 4 * m * step
    high := (4 * m + 2) * step
    closed := m % 2 == 0 }

theorem ofNumber_eq (x : Binary64) : ofNumber x = ofWord x.magnitude := rfl

variable {word : Nat}

theorem low_ofWord_eq (word : Nat) :
    (ofWord word).low = (4 * (wordSignificand word).1 -
      if (wordSignificand word).1 = binadeSize ∧ 0 < (wordSignificand word).2 then 1 else 2) *
        2 ^ (wordSignificand word).2 := rfl

theorem high_ofWord_eq (word : Nat) :
    (ofWord word).high = (4 * (wordSignificand word).1 + 2) * 2 ^ (wordSignificand word).2 := rfl

/-- The upper end lies half the way to the next magnitude. -/
theorem high_ofWord (word : Nat) :
    (ofWord word).high = 2 * (wordUnits word + wordUnits (word + 1)) := by
  rw [wordUnits_succ, wordUnits, high_ofWord_eq]
  ring

/-- The lower end lies half the way to the magnitude before. -/
theorem low_ofWord_succ (word : Nat) :
    (ofWord (word + 1)).low = 2 * (wordUnits word + wordUnits (word + 1)) := by
  have hb := binadeSize_eq
  rw [low_ofWord_eq, wordUnits_succ, wordUnits]
  rcases wordSignificand_succ word with h | ⟨hm, h⟩
  · have hnot : ¬ ((wordSignificand word).1 + 1 = binadeSize ∧ 0 < (wordSignificand word).2) :=
      fun hc => by
        have hle := le_wordSignificand hc.2
        omega
    have hfour : 4 * ((wordSignificand word).1 + 1) - 2 = 4 * (wordSignificand word).1 + 2 := by
      omega
    rw [h, if_neg hnot, hfour]
    ring
  · have hfour : 4 * binadeSize - 1 = 2 * (wordSignificand word).1 + 1 := by omega
    rw [h, if_pos ⟨rfl, Nat.succ_pos _⟩, hfour]
    ring

theorem closed_ofWord : (ofWord word).closed = true ↔ word % 2 = 0 := by
  rw [← wordSignificand_odd, ofWord]
  exact beq_iff_eq

/-- The reals of a span, in quarters of a unit. -/
def Contains (s : Span) (q : ℚ) : Prop :=
  if s.closed then s.low ≤ q ∧ q ≤ s.high else s.low < q ∧ q < s.high

theorem Contains.bounds {s : Span} {q : ℚ} (h : s.Contains q) :
    s.low ≤ q ∧ q ≤ s.high ∧ (q = s.low ∨ q = s.high → s.closed = true) := by
  rw [Contains] at h
  split at h
  · next hc => exact ⟨h.1, h.2, fun _ => hc⟩
  · refine ⟨h.1.le, h.2.le, ?_⟩
    rintro (he | he)
    · exact absurd h.1 (he ▸ lt_irrefl _)
    · exact absurd h.2 (he ▸ lt_irrefl _)

/-- A larger word has its reals above those of a smaller one. -/
theorem high_le_low {v w : Nat} (h : v < w) : (ofWord v).high ≤ (ofWord w).low := by
  obtain ⟨word, rfl⟩ : ∃ word, w = word + 1 := ⟨w - 1, by omega⟩
  have hmono := wordUnits_strictMono.monotone (show v + 1 ≤ word + 1 by omega)
  have hmono' := wordUnits_strictMono.monotone (show v ≤ word by omega)
  rw [high_ofWord, low_ofWord_succ]
  omega

theorem high_ofWord_mono {v w : Nat} (h : v ≤ w) : (ofWord v).high ≤ (ofWord w).high := by
  have hmono := wordUnits_strictMono.monotone h
  have hmono' := wordUnits_strictMono.monotone (Nat.add_le_add_right h 1)
  rw [high_ofWord, high_ofWord]
  omega

/-- Nothing rounds to a word and to a larger one. -/
theorem not_contains_of_lt {v w : Nat} (hlt : v < w) {q : ℚ} (hv : (ofWord v).Contains q) :
    ¬ (ofWord w).Contains q := by
  intro hw
  obtain ⟨-, hhigh, hve⟩ := hv.bounds
  obtain ⟨hlow, -, hwe⟩ := hw.bounds
  have hle := high_le_low hlt
  have hge : (ofWord w).low ≤ (ofWord v).high := by exact_mod_cast hlow.trans hhigh
  have heq : (ofWord v).high = (ofWord w).low := le_antisymm hle hge
  -- the common end belongs to both words, which are neighbours; one of them is odd
  have hq : q = (ofWord v).high := le_antisymm hhigh (heq ▸ hlow)
  have hvclosed := closed_ofWord.mp (hve (.inr hq))
  have hwclosed := closed_ofWord.mp (hwe (.inl (heq ▸ hq)))
  obtain ⟨word, rfl⟩ : ∃ word, w = word + 1 := ⟨w - 1, by omega⟩
  have hmono := wordUnits_strictMono.monotone (show v + 1 ≤ word + 1 by omega)
  have hmono' := wordUnits_strictMono.monotone (show v ≤ word by omega)
  rw [high_ofWord, low_ofWord_succ] at heq
  have hnext : v = word := wordUnits_strictMono.injective (by omega)
  omega

/-- The spans of two words have nothing in common. -/
theorem word_unique {v w : Nat} {q : ℚ} (hv : (ofWord v).Contains q)
    (hw : (ofWord w).Contains q) : v = w := by
  rcases Nat.lt_trichotomy v w with h | h | h
  · exact absurd hw (not_contains_of_lt h hv)
  · exact h
  · exact absurd hv (not_contains_of_lt h hw)

/-! ### The search -/

theorem quartersPerOne_pos : 0 < quartersPerOne := by
  obtain ⟨e, -, hunits⟩ := Binary64.exists_unitsPerOne
  rw [quartersPerOne, hunits]
  exact Nat.mul_pos (by decide) (Nat.two_pow_pos e)

/-- The decimal `digits * 10 ^ power` is one of the reals of the span. -/
def HasPoint (s : Span) (digits : Nat) (power : Int) : Prop :=
  s.Contains (digits * (10 : ℚ) ^ power * quartersPerOne)

theorem holds_iff (s : Span) (num : Nat) {den : Nat} (hden : 0 < den) :
    s.holds num den = true ↔ s.Contains (num / den) := by
  have hpos : (0 : ℚ) < den := by exact_mod_cast hden
  rw [holds, Contains]
  split
  · rw [Bool.and_eq_true, decide_eq_true_eq, decide_eq_true_eq, le_div_iff₀ hpos,
      div_le_iff₀ hpos]
    norm_cast
  · rw [Bool.and_eq_true, decide_eq_true_eq, decide_eq_true_eq, lt_div_iff₀ hpos,
      div_lt_iff₀ hpos]
    norm_cast

/-- A point of a grid, in quarters of a unit. -/
theorem grid_point (point : Nat) (power : Int) :
    ((point * (Nat.pow 10 power.toNat * quartersPerOne) : Nat) : ℚ) /
        (Nat.pow 10 (-power).toNat : Nat) =
      point * (10 : ℚ) ^ power * quartersPerOne := by
  have hpow : (10 : ℚ) ^ power = 10 ^ power.toNat / 10 ^ (-power).toNat := by
    rw [eq_div_iff (by positivity), ← zpow_natCast, ← zpow_natCast, ← zpow_add₀ (by norm_num)]
    congr 1
    omega
  rw [hpow]
  push_cast [Nat.pow_eq]
  ring

theorem contains_of_onGrid? {s : Span} {tie : Tie} {power : Int} {point : Nat}
    (h : s.onGrid? tie power = some point) :
    s.Contains (point * (10 : ℚ) ^ power * quartersPerOne) := by
  have hden : 0 < Nat.pow 10 (-power).toNat := Nat.pow_pos (by decide)
  have holds : ∀ point, s.holds (point * (Nat.pow 10 power.toNat * quartersPerOne))
      (Nat.pow 10 (-power).toNat) = true →
      s.Contains (point * (10 : ℚ) ^ power * quartersPerOne) := by
    intro point hp
    rw [← grid_point]
    exact (holds_iff s _ hden).mp hp
  simp only [onGrid?] at h
  split at h
  · next hbelow =>
    split at h
    · next habove =>
      split at h
      · cases h
        exact holds _ habove
      · cases h
        exact holds _ hbelow
    · cases h
      exact holds _ hbelow
  · split at h
    · next habove =>
      cases h
      exact holds _ habove
    · cases h

/-- What lies inside the ends belongs to the span, whether they do or not. -/
theorem contains_of_between {s : Span} {q : ℚ} (hlow : s.low < q) (hhigh : q < s.high) :
    s.Contains q := by
  rw [Contains]
  split
  · exact ⟨hlow.le, hhigh.le⟩
  · exact ⟨hlow, hhigh⟩

/-- What lies between a real of the span and its value belongs to the span. -/
theorem Contains.toward {s : Span} {q r : ℚ} (hlow : s.low < s.value) (hhigh : s.value < s.high)
    (h : s.Contains q) (hr : q ≤ r ∧ r ≤ s.value ∨ s.value ≤ r ∧ r ≤ q) : s.Contains r := by
  have hlow : (s.low : ℚ) < s.value := by exact_mod_cast hlow
  have hhigh : (s.value : ℚ) < s.high := by exact_mod_cast hhigh
  rw [Contains] at h ⊢
  cases hc : s.closed with
  | true =>
    obtain ⟨hl, hh⟩ : s.low ≤ q ∧ q ≤ s.high := by simpa [hc] using h
    rw [if_pos rfl]
    rcases hr with hr | hr
    · exact ⟨by linarith, by linarith⟩
    · exact ⟨by linarith, by linarith⟩
  | false =>
    obtain ⟨hl, hh⟩ : s.low < q ∧ q < s.high := by simpa [hc] using h
    rw [if_neg (by simp)]
    rcases hr with hr | hr
    · exact ⟨by linarith, by linarith⟩
    · exact ⟨by linarith, by linarith⟩

/-- A grid with a point in the span has one next to the value. -/
theorem onGrid?_of_hasPoint {s : Span} (hlow : s.low < s.value) (hhigh : s.value < s.high)
    (tie : Tie) {power : Int} {point : Nat} (h : s.HasPoint point power) :
    (s.onGrid? tie power).isSome = true := by
  have hden : 0 < Nat.pow 10 (-power).toNat := Nat.pow_pos (by decide)
  have hgrid : ∀ n : Nat, ((n * (Nat.pow 10 power.toNat * quartersPerOne) : Nat) : ℚ) /
      (Nat.pow 10 (-power).toNat : Nat) = n * (10 : ℚ) ^ power * quartersPerOne :=
    fun n => grid_point n power
  have hstep : 0 < Nat.pow 10 power.toNat * quartersPerOne :=
    Nat.mul_pos (Nat.pow_pos (by decide)) quartersPerOne_pos
  have hmono : ∀ {m n : Nat}, m ≤ n →
      (m : ℚ) * (10 : ℚ) ^ power * quartersPerOne ≤ n * (10 : ℚ) ^ power * quartersPerOne := by
    intro m n hmn
    have hten : (0 : ℚ) ≤ 10 ^ power := zpow_nonneg (by norm_num) power
    have hmn : (m : ℚ) * 10 ^ power ≤ n * 10 ^ power :=
      mul_le_mul_of_nonneg_right (by exact_mod_cast hmn) hten
    exact mul_le_mul_of_nonneg_right hmn (Nat.cast_nonneg _)
  have h : s.Contains (point * (10 : ℚ) ^ power * quartersPerOne) := h
  simp only [onGrid?]
  -- the step of the grid stays a variable, so that nothing computes it
  generalize Nat.pow 10 power.toNat * quartersPerOne = step at *
  generalize hbelow : s.value * Nat.pow 10 (-power).toNat / step = below
  have hholds : ∀ {n : Nat}, s.Contains (n * (10 : ℚ) ^ power * quartersPerOne) →
      s.holds (n * step) (Nat.pow 10 (-power).toNat) = true := by
    intro n hn
    rw [← hgrid] at hn
    exact (holds_iff s _ hden).mpr hn
  have hden : (0 : ℚ) < (Nat.pow 10 (-power).toNat : Nat) := by exact_mod_cast hden
  have hdown : (below : ℚ) * (10 : ℚ) ^ power * quartersPerOne ≤ s.value := by
    have hle : below * step ≤ s.value * Nat.pow 10 (-power).toNat :=
      hbelow ▸ Nat.div_mul_le_self ..
    rw [← hgrid, div_le_iff₀ hden]
    exact_mod_cast hle
  have hup : s.value ≤ ((below + 1 : Nat) : ℚ) * (10 : ℚ) ^ power * quartersPerOne := by
    have hle : s.value * Nat.pow 10 (-power).toNat ≤ (below + 1) * step := by
      rw [Nat.mul_comm (below + 1), ← hbelow]
      exact (Nat.lt_mul_div_succ _ hstep).le
    rw [← hgrid, le_div_iff₀ hden]
    exact_mod_cast hle
  by_cases hpoint : point ≤ below
  · have hin := h.toward hlow hhigh (.inl ⟨hmono hpoint, hdown⟩)
    rw [if_pos (hholds hin)]
    split
    · rfl
    · rfl
  · have hin := h.toward hlow hhigh (.inr ⟨hup, hmono (Nat.not_le.mp hpoint)⟩)
    rw [hholds hin]
    split
    · rfl
    · rfl

/-- The search ends at the first grid that has a point. -/
theorem search_first {s : Span} {tie : Tie} {steps : Nat} {power : Int} {n : Nat} (hn : n < steps)
    (h : (s.onGrid? tie (power - n)).isSome = true) :
    ∃ m : Nat, m ≤ n ∧ (s.search tie steps power).power = power - m ∧
      s.onGrid? tie (power - m) = some (s.search tie steps power).digits ∧
      ∀ j : Nat, j < m → s.onGrid? tie (power - j) = none := by
  induction steps generalizing power n with
  | zero => exact absurd hn (Nat.not_lt_zero n)
  | succ steps ih =>
    rw [search]
    cases hg : s.onGrid? tie power with
    | some point => exact ⟨0, Nat.zero_le n, by simp, by simpa using hg, by simp⟩
    | none =>
      cases n with
      | zero => simp [hg] at h
      | succ n =>
        have hnext : ∀ j : Nat, power - 1 - (j : Int) = power - (j + 1 : Nat) := by omega
        have hlater : (s.onGrid? tie (power - 1 - (n : Int))).isSome = true := by rwa [hnext]
        obtain ⟨m, hm, hpower, hpoint, hnone⟩ := ih (Nat.lt_of_succ_lt_succ hn) hlater
        refine ⟨m + 1, by omega, by rw [hpower, hnext], by rwa [← hnext], fun j hj => ?_⟩
        cases j with
        | zero => simpa using hg
        | succ j =>
          rw [← hnext]
          exact hnone j (by omega)

theorem low_ofNumber_eq (x : Binary64) :
    (ofNumber x).low = (4 * x.significand.1 -
      if x.significand.1 = binadeSize ∧ 0 < x.significand.2 then 1 else 2) *
        2 ^ x.significand.2 := rfl

theorem value_ofNumber (x : Binary64) :
    (ofNumber x).value = 4 * (x.significand.1 * 2 ^ x.significand.2) :=
  Nat.mul_assoc ..

theorem low_lt_value {x : Binary64} (hx : 0 < x.significand.1) :
    (ofNumber x).low < (ofNumber x).value := by
  rw [low_ofNumber_eq, value_ofNumber, ← Nat.mul_assoc]
  refine Nat.mul_lt_mul_of_pos_right ?_ (Nat.pow_pos (by decide))
  split
  · omega
  · omega

theorem value_lt_high (x : Binary64) : (ofNumber x).value < (ofNumber x).high :=
  Nat.mul_lt_mul_of_pos_right (Nat.lt_add_of_pos_right (by decide)) (Nat.pow_pos (by decide))

theorem significand_pos {x : Binary64} (hx : x.isZero = false) : 0 < x.significand.1 := by
  have hne : x.magnitude ≠ 0 := by simpa [Binary64.isZero] using hx
  have hb := binadeSize_eq
  rw [significand_eq]
  by_cases hw : x.magnitude < binadeSize
  · rw [wordSignificand_small hw]
    exact Nat.pos_of_ne_zero hne
  · rw [wordSignificand_large hw]
    exact Nat.lt_of_lt_of_le (by omega) (Nat.le_add_right ..)

/-- Every number lies on the finest grid that is searched. -/
theorem onGrid?_finest {x : Binary64} (hx : x.isZero = false) (tie : Tie) :
    ((ofNumber x).onGrid? tie (-(1074 : Nat))).isSome = true := by
  have hlow := low_lt_value (significand_pos hx)
  have hhigh := value_lt_high x
  have hvalue : (ofNumber x).Contains (ofNumber x).value :=
    contains_of_between (by exact_mod_cast hlow) (by exact_mod_cast hhigh)
  obtain ⟨e, he, hunits⟩ := Binary64.exists_unitsPerOne
  have hquarters : quartersPerOne = 4 * 2 ^ e := by rw [quartersPerOne, hunits]
  have hpow : (5 : ℚ) ^ e * 10 ^ (-(e : Int)) * 2 ^ e = 1 := by
    rw [zpow_neg, zpow_natCast, mul_right_comm, ← mul_pow]
    norm_num
  have hpoint : ((x.units * 5 ^ e : Nat) : ℚ) * 10 ^ (-(e : Int)) * quartersPerOne =
      (ofNumber x).value := by
    rw [value_ofNumber, hquarters]
    push_cast [Binary64.units, Nat.pow_eq]
    calc (x.significand.1 : ℚ) * 2 ^ x.significand.2 * 5 ^ e * 10 ^ (-(e : Int)) * (4 * 2 ^ e)
        = 4 * (x.significand.1 * 2 ^ x.significand.2) * (5 ^ e * 10 ^ (-(e : Int)) * 2 ^ e) := by
          ring
      _ = _ := by rw [hpow, mul_one]
  have hhas : (ofNumber x).HasPoint (x.units * 5 ^ e) (-(e : Int)) := by
    rwa [HasPoint, hpoint]
  rw [← he]
  exact onGrid?_of_hasPoint hlow hhigh tie hhas

end Span

/-- The shortest decimal stands on the first grid with a point among the reals of the
number, from the grid on whose step has as many digits as the number. -/
theorem shortest_first {x : Binary64} (hx : x.isZero = false) (tie : Tie) :
    ∃ m : Nat, m ≤ (Nat.toDigits 10 ((Span.ofNumber x).high / Span.quartersPerOne)).length + 1074 ∧
      (shortest tie x).power =
        (Nat.toDigits 10 ((Span.ofNumber x).high / Span.quartersPerOne)).length - m ∧
      (Span.ofNumber x).onGrid? tie (shortest tie x).power = some (shortest tie x).digits ∧
      ∀ j : Nat, j < m → (Span.ofNumber x).onGrid? tie
        ((Nat.toDigits 10 ((Span.ofNumber x).high / Span.quartersPerOne)).length - j) = none := by
  rw [shortest]
  generalize (Nat.toDigits 10 ((Span.ofNumber x).high / Span.quartersPerOne)).length = top
  -- the last grid of the search is the finest
  have hfinest := Span.onGrid?_finest hx tie
  rw [show (-(1074 : Nat) : Int) = top - (top + 1074 : Nat) by omega] at hfinest
  obtain ⟨m, hm, hpower, hpoint, hnone⟩ :=
    Span.search_first (show top + 1074 < top + 1075 from Nat.lt_succ_self _) hfinest
  exact ⟨m, hm, hpower, by rwa [hpower], hnone⟩

/-- What is written for a number other than zero rounds to the number. -/
theorem shortest_contains {x : Binary64} (hx : x.isZero = false) (tie : Tie) :
    (Span.ofNumber x).Contains ((shortest tie x).digits * (10 : ℚ) ^ (shortest tie x).power *
      Span.quartersPerOne) := by
  obtain ⟨m, -, -, hpoint, -⟩ := shortest_first hx tie
  exact Span.contains_of_onGrid? hpoint

end PipelineWatch.Decimal
