import PipelineWatch.Proofs.Decimal.Span

/-!
Rounding a ratio. The word that `nearest` computes is the one whose reals hold the ratio; so
rounding leads past no number, and all reals of a finite number are rounded to it.
-/
namespace PipelineWatch.Decimal

namespace Binary64

/-! ### One division -/

/-- How far a rounded quotient is from the exact one, in halves of the divisor. -/
structure Rounds (num den r : Nat) : Prop where
  upper : 2 * num ≤ 2 * (r * den) + den
  lower : 2 * (r * den) ≤ 2 * num + den
  odd : r % 2 = 1 → 2 * num < 2 * (r * den) + den ∧ 2 * (r * den) < 2 * num + den
  floor_le : num / den ≤ r
  le_floor : r ≤ num / den + 1

theorem rounds_roundDiv (num : Nat) {den : Nat} (hden : 0 < den) :
    Rounds num den (roundDiv num den) := by
  have hmod := Nat.mod_lt num hden
  have hsum := Nat.div_add_mod num den
  have hnext : (num / den + 1) * den = den * (num / den) + den := by
    rw [Nat.add_one_mul, Nat.mul_comm]
  have hsame : num / den * den = den * (num / den) := Nat.mul_comm ..
  simp only [roundDiv]
  generalize hq : num / den = q at *
  generalize num % den = r at *
  split
  · constructor <;> omega
  split
  · constructor <;> omega
  split
  · constructor <;> omega
  · constructor <;> omega

/-- The word nearest to a ratio of units, were there no largest one. -/
def nearestWord (units den : Nat) : Nat :=
  ((units / den).log2 - 52) * binadeSize +
    roundDiv units (den * Nat.pow 2 ((units / den).log2 - 52))

theorem nearest_eq (num den : Nat) :
    nearest num den = min (nearestWord (num * unitsPerOne) den) infinity := rfl

/-- The parts of the nearest word: a significand and an exponent, which is as large as it can
be. -/
theorem nearestWord_parts (units : Nat) {den : Nat} (hden : 0 < den) :
    ∃ k r, nearestWord units den = k * binadeSize + r ∧ Rounds units (den * 2 ^ k) r ∧
      r ≤ 2 ^ 53 ∧ k = (units / den).log2 - 52 ∧
      (0 < k → 2 ^ 52 ≤ r ∧ 2 ^ 52 * (den * 2 ^ k) ≤ units) := by
  have hd : ∀ k : Nat, 0 < den * 2 ^ k := fun k => Nat.mul_pos hden (Nat.pow_pos (by decide))
  have hrounds : Rounds units (den * 2 ^ ((units / den).log2 - 52))
      (roundDiv units (den * Nat.pow 2 ((units / den).log2 - 52))) :=
    rounds_roundDiv units (hd _)
  refine ⟨_, _, rfl, hrounds, ?_, rfl, fun hk => ?_⟩
  · have hlog : units / den < 2 ^ ((units / den).log2 - 52 + 53) := by
      refine Nat.lt_of_lt_of_le Nat.lt_log2_self (Nat.pow_le_pow_right (by decide) ?_)
      omega
    have hfloor : units / (den * 2 ^ ((units / den).log2 - 52)) < 2 ^ 53 := by
      rw [← Nat.div_div_eq_div_mul]
      refine Nat.div_lt_of_lt_mul ?_
      rwa [← Nat.pow_add]
    have hle := hrounds.le_floor
    omega
  · have hne : units / den ≠ 0 := by
      intro hzero
      rw [hzero] at hk
      exact absurd hk (by decide)
    have hlog : 2 ^ 52 * 2 ^ ((units / den).log2 - 52) ≤ units / den := by
      rw [← Nat.pow_add, show 52 + ((units / den).log2 - 52) = (units / den).log2 by omega]
      exact Nat.log2_self_le hne
    have hunits : 2 ^ 52 * (den * 2 ^ ((units / den).log2 - 52)) ≤ units := by
      calc 2 ^ 52 * (den * 2 ^ ((units / den).log2 - 52))
          = 2 ^ 52 * 2 ^ ((units / den).log2 - 52) * den := by ring
        _ ≤ units / den * den := Nat.mul_le_mul_right _ hlog
        _ ≤ units := Nat.div_mul_le_self ..
    refine ⟨?_, hunits⟩
    have hfloor := (Nat.le_div_iff_mul_le (hd _)).mpr hunits
    exact hfloor.trans hrounds.floor_le

/-- A word by significand and exponent, also one that carries into the next binade. -/
theorem wordSignificand_parts {k r : Nat} (hr : r ≤ 2 ^ 53) (hk : 0 < k → 2 ^ 52 ≤ r) :
    r < 2 ^ 53 ∧ wordSignificand (k * binadeSize + r) = (r, k) ∨
      r = 2 ^ 53 ∧ wordSignificand (k * binadeSize + r) = (binadeSize, k + 1) := by
  have hb := binadeSize_eq
  by_cases hsmall : k * binadeSize + r < binadeSize
  · have hzero : k = 0 := by
      refine Nat.eq_zero_of_not_pos fun hpos => ?_
      rw [hb] at hsmall
      omega
    subst hzero
    rw [Nat.zero_mul, Nat.zero_add] at hsmall ⊢
    exact .inl ⟨by omega, wordSignificand_small hsmall⟩
  · rw [wordSignificand_large hsmall]
    by_cases hcarry : r = 2 ^ 53
    · refine .inr ⟨hcarry, Prod.ext ?_ ?_⟩ <;> dsimp only <;> rw [hb] at * <;> omega
    · refine .inl ⟨by omega, Prod.ext ?_ ?_⟩ <;> dsimp only <;> rw [hb] at * <;> omega

theorem wordUnits_parts {k r : Nat} (hr : r ≤ 2 ^ 53) (hk : 0 < k → 2 ^ 52 ≤ r) :
    wordUnits (k * binadeSize + r) = r * 2 ^ k := by
  rw [wordUnits]
  rcases wordSignificand_parts hr hk with ⟨-, h⟩ | ⟨rfl, h⟩
  · rw [h]
  · rw [h, show (2 : Nat) ^ 53 = binadeSize * 2 from rfl, Nat.pow_succ']
    exact (Nat.mul_assoc ..).symm

/-- A ratio lies between the ends of a span, and on neither where they are open. -/
theorem contains_of_le {s : Span} {num den : Nat} (hden : 0 < den) (hlow : s.low * den ≤ num)
    (hhigh : num ≤ s.high * den)
    (hopen : s.closed = false → s.low * den < num ∧ num < s.high * den) :
    s.Contains (num / den) := by
  refine (Span.holds_iff s num hden).mp ?_
  rw [Span.holds]
  cases hc : s.closed with
  | true => simp [hlow, hhigh]
  | false =>
    obtain ⟨hl, hh⟩ := hopen hc
    simp [hl, hh]

theorem closed_parts (k r : Nat) :
    (Span.ofWord (k * binadeSize + r)).closed = true ↔ r % 2 = 0 := by
  have hb := binadeSize_eq
  rw [Span.closed_ofWord, hb]
  omega

/-- The reals of a word hold what is rounded to its significand. The span is narrower below the
first word of a binade, which no smaller ratio is rounded to. -/
theorem contains_parts {units den k r : Nat} (hden : 0 < den)
    (hrounds : Rounds units (den * 2 ^ k) r)
    (hk : 0 < k → 2 ^ 52 * (den * 2 ^ k) ≤ units)
    (hs : wordSignificand (k * binadeSize + r) = (r, k)) :
    (Span.ofWord (k * binadeSize + r)).Contains ((4 * units : Nat) / den) := by
  have hd : 0 < den * 2 ^ k := Nat.mul_pos hden (Nat.pow_pos (by decide))
  have hend : ∀ a : Nat, a * 2 ^ k * den = a * (den * 2 ^ k) := by
    intro a
    ring
  obtain ⟨hupper, hlower, hodd, -, -⟩ := hrounds
  generalize den * 2 ^ k = d at *
  have hhigh : (Span.ofWord (k * binadeSize + r)).high * den = 4 * (r * d) + 2 * d := by
    rw [Span.high_ofWord_eq, hs, hend, Nat.add_mul, Nat.mul_assoc]
  have hlow : (Span.ofWord (k * binadeSize + r)).low * den < 4 * units ∨
      (Span.ofWord (k * binadeSize + r)).low * den = 4 * (r * d) - 2 * d := by
    rw [Span.low_ofWord_eq, hs, hend, Nat.sub_mul, Nat.mul_assoc]
    split
    · next hmin =>
      have hunits := hk hmin.2
      rw [show r = 2 ^ 52 from hmin.1]
      exact .inl (by omega)
    · exact .inr rfl
  refine contains_of_le hden (by omega) (by omega) fun hopen => ?_
  have hne : r % 2 ≠ 0 := by
    intro he
    rw [(closed_parts k r).mpr he] at hopen
    cases hopen
  have hle := Nat.le_mul_of_pos_left d (show 0 < r by omega)
  have hstrict := hodd (by omega)
  exact ⟨by omega, by omega⟩

/-- So do those of the first word of a binade hold what is rounded to the end of the one
before. -/
theorem contains_carry {units den k r : Nat} (hden : 0 < den)
    (hrounds : Rounds units (den * 2 ^ k) r) (hr : r = 2 * binadeSize)
    (hs : wordSignificand (k * binadeSize + r) = (binadeSize, k + 1)) :
    (Span.ofWord (k * binadeSize + r)).Contains ((4 * units : Nat) / den) := by
  obtain ⟨hupper, hlower, -, -, -⟩ := hrounds
  have htwo : r * (den * 2 ^ k) = 2 * (binadeSize * (den * 2 ^ k)) := by
    rw [hr, Nat.mul_assoc]
  have hhigh : (Span.ofWord (k * binadeSize + r)).high * den =
      8 * (binadeSize * (den * 2 ^ k)) + 4 * (den * 2 ^ k) := by
    rw [Span.high_ofWord_eq, hs, Nat.pow_succ]
    ring
  have hlow : (Span.ofWord (k * binadeSize + r)).low * den =
      8 * (binadeSize * (den * 2 ^ k)) - 2 * (den * 2 ^ k) := by
    rw [Span.low_ofWord_eq, hs, if_pos ⟨rfl, Nat.succ_pos k⟩, Nat.pow_succ]
    calc (4 * binadeSize - 1) * (2 ^ k * 2) * den
        = (4 * binadeSize - 1) * (2 * (den * 2 ^ k)) := by ring
      _ = 8 * (binadeSize * (den * 2 ^ k)) - 2 * (den * 2 ^ k) := by
        rw [Nat.sub_mul, Nat.one_mul]
        ring_nf
  have hclosed := (closed_parts k r).mpr (by rw [hr, Nat.mul_mod_right])
  refine contains_of_le hden (by omega) (by omega) fun hopen => ?_
  rw [hclosed] at hopen
  cases hopen

/-- The reals of the nearest word hold the ratio, in quarters of a unit. -/
theorem contains_nearestWord (units : Nat) {den : Nat} (hden : 0 < den) :
    (Span.ofWord (nearestWord units den)).Contains ((4 * units : Nat) / den) := by
  obtain ⟨k, r, hword, hrounds, hr, -, hk⟩ := nearestWord_parts units hden
  rw [hword]
  rcases wordSignificand_parts hr fun h => (hk h).1 with ⟨-, hs⟩ | ⟨hcarry, hs⟩
  · exact contains_parts hden hrounds (fun h => (hk h).2) hs
  · exact contains_carry hden hrounds hcarry hs

/-! ### Bounds of the nearest word -/

section

variable {units den word : Nat} (hden : 0 < den)

include hden

/-- A ratio below the upper end of a word is not rounded to a larger one, -/
theorem nearestWord_le (h : 4 * units < (Span.ofWord word).high * den) :
    nearestWord units den ≤ word := by
  by_contra hlt
  have hlow := (contains_nearestWord units hden).bounds.1
  rw [le_div_iff₀ (by exact_mod_cast hden)] at hlow
  have hlow : (Span.ofWord (nearestWord units den)).low * den ≤ 4 * units := by
    exact_mod_cast hlow
  have hends := Nat.mul_le_mul_right den (Span.high_le_low (Nat.not_le.mp hlt))
  omega

/-- and one above the lower end not to a smaller one. -/
theorem le_nearestWord (h : (Span.ofWord word).low * den < 4 * units) :
    word ≤ nearestWord units den := by
  by_contra hlt
  have hhigh := (contains_nearestWord units hden).bounds.2.1
  rw [div_le_iff₀ (by exact_mod_cast hden)] at hhigh
  have hhigh : 4 * units ≤ (Span.ofWord (nearestWord units den)).high * den := by
    exact_mod_cast hhigh
  have hends := Nat.mul_le_mul_right den (Span.high_le_low (Nat.not_le.mp hlt))
  omega

/-- So rounding does not lead past a number. -/
theorem nearestWord_le_of_units_le (h : units ≤ wordUnits word * den) :
    nearestWord units den ≤ word := by
  refine nearestWord_le hden ?_
  have hmono := wordUnits_strictMono (Nat.lt_add_one word)
  calc 4 * units ≤ 4 * (wordUnits word * den) := Nat.mul_le_mul_left 4 h
    _ = 4 * wordUnits word * den := (Nat.mul_assoc ..).symm
    _ < (Span.ofWord word).high * den := by
      rw [Span.high_ofWord]
      exact Nat.mul_lt_mul_of_pos_right (by omega) hden

theorem le_nearestWord_of_le_units (h : wordUnits word * den ≤ units) :
    word ≤ nearestWord units den := by
  cases word with
  | zero => exact Nat.zero_le _
  | succ word =>
    refine le_nearestWord hden ?_
    have hmono := wordUnits_strictMono (Nat.lt_add_one word)
    calc (Span.ofWord (word + 1)).low * den < 4 * wordUnits (word + 1) * den := by
          rw [Span.low_ofWord_succ]
          exact Nat.mul_lt_mul_of_pos_right (by omega) hden
      _ = 4 * (wordUnits (word + 1) * den) := Nat.mul_assoc ..
      _ ≤ 4 * units := Nat.mul_le_mul_left 4 h

/-- Rounding adds one part in `2 ^ 53` at most, unless there are fewer bits than that. -/
theorem wordUnits_nearestWord_le (h : 2 ^ 52 * den ≤ units) :
    2 ^ 53 * (wordUnits (nearestWord units den) * den) ≤ (2 ^ 53 + 1) * units := by
  obtain ⟨k, r, hword, hrounds, hr, -, hk⟩ := nearestWord_parts units hden
  have hstep : 2 ^ 52 * (den * 2 ^ k) ≤ units := by
    cases k with
    | zero => rwa [Nat.pow_zero, Nat.mul_one]
    | succ k => exact (hk (Nat.succ_pos k)).2
  have hunits : wordUnits (nearestWord units den) * den = r * (den * 2 ^ k) := by
    rw [hword, wordUnits_parts hr fun h => (hk h).1]
    ring
  have hlower := hrounds.lower
  rw [hunits]
  omega

end

/-- A ratio that rounds to a finite number is rounded to it. -/
theorem nearest_of_contains {x : Binary64} (hx : x.isFinite = true) {num den : Nat}
    (hden : 0 < den)
    (h : (Span.ofNumber x).Contains (num / den * Span.quartersPerOne)) :
    nearest num den = x.magnitude := by
  have hfinite := isFinite_iff.mp hx
  have hword := contains_nearestWord (num * unitsPerOne) hden
  have hquarters : ((4 * (num * unitsPerOne) : Nat) : ℚ) / den =
      num / den * Span.quartersPerOne := by
    delta Span.quartersPerOne
    push_cast
    ring
  rw [hquarters] at hword
  rw [nearest_eq, Span.word_unique hword h, Nat.min_eq_left hfinite.le]

/-! ### Numbers by sign and word -/

theorem infinity_lt_signWord : infinity < signWord := by decide

theorem nearest_le_infinity (num den : Nat) : nearest num den ≤ infinity :=
  Nat.min_le_right ..

section

variable {word : Nat} (h : word < signWord) (negative : Bool)

include h

theorem toNat_ofParts :
    (ofParts negative word).bits.toNat = (if negative then signWord else 0) + word := by
  have hsign : signWord = 2 ^ 63 := rfl
  rw [ofParts]
  cases negative with
  | true => exact Nat.mod_eq_of_lt (show signWord + word < 2 ^ 64 by omega)
  | false =>
    rw [if_neg (by simp), if_neg (by simp), Nat.zero_add]
    exact Nat.mod_eq_of_lt (by omega)

theorem magnitude_ofParts : (ofParts negative word).magnitude = word := by
  have hsign : signWord = 2 ^ 63 := rfl
  rw [magnitude, toNat_ofParts h, hsign]
  rw [hsign] at h
  split <;> omega

theorem negative_ofParts : (ofParts negative word).negative = negative := by
  rw [Binary64.negative, toNat_ofParts h]
  cases negative with
  | true => simp
  | false => simpa using h

end

theorem isFinite_ofParts {word : Nat} (h : word < infinity) (negative : Bool) :
    (ofParts negative word).isFinite = true := by
  rwa [isFinite_iff, magnitude_ofParts (Nat.lt_trans h infinity_lt_signWord)]

/-- A number is its sign and its word. -/
theorem ofParts_self (x : Binary64) : ofParts x.negative x.magnitude = x := by
  have hlt : x.magnitude < signWord := Nat.mod_lt _ (by decide)
  exact eq_of_magnitude (negative_ofParts hlt _) (magnitude_ofParts hlt _)

/-- A ratio is rounded to the nearest word, or to infinity, and keeps its sign. -/
theorem magnitude_ofRatio (negative : Bool) (num den : Nat) :
    (ofRatio negative num den).magnitude = min (nearestWord (num * unitsPerOne) den) infinity :=
  magnitude_ofParts (Nat.lt_of_le_of_lt (nearest_le_infinity num den) infinity_lt_signWord) negative

theorem negative_ofRatio (negative : Bool) (num den : Nat) :
    (ofRatio negative num den).negative = negative :=
  negative_ofParts (Nat.lt_of_le_of_lt (nearest_le_infinity num den) infinity_lt_signWord) negative

end Binary64

end PipelineWatch.Decimal
