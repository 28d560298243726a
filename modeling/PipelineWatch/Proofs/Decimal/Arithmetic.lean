import PipelineWatch.Proofs.Decimal.Rounding

/-!
Arithmetic on numbers. A product and a quotient are the numbers that their exact results round
to, whole numbers of 53 bits with zeros behind them are not rounded at all, and no other one
by more than a part in `2 ^ 53`.
-/
namespace PipelineWatch.Decimal.Binary64

/-! ### Whole numbers -/

theorem Rounds.exact {n den r : Nat} (hden : 0 < den) (h : Rounds (n * den) den r) : r = n := by
  have hfloor := h.floor_le
  have hle := h.le_floor
  have hlower := h.lower
  rw [Nat.mul_div_cancel _ hden] at hfloor hle
  rcases Nat.eq_or_lt_of_le hle with rfl | hlt
  · have hnext : (n + 1) * den = n * den + den := Nat.add_one_mul ..
    omega
  · omega

theorem units_eq (x : Binary64) : x.units = wordUnits x.magnitude := rfl

/-- A whole number of 53 bits with zeros behind them is not rounded. -/
theorem ofNat_exact {n m j : Nat} (hn : n = m * 2 ^ j) (hm : m < 2 ^ 53) (hj : j ≤ 900) :
    (ofNat n).units = n * unitsPerOne ∧ (ofNat n).isFinite = true := by
  obtain ⟨e, he, hunits⟩ := exists_unitsPerOne
  obtain ⟨k, r, hword, hrounds, hr, hlog, hk⟩ := nearestWord_parts (n * unitsPerOne) Nat.one_pos
  have hvalue : n * unitsPerOne = m * 2 ^ (j + e) := by
    rw [hunits, hn, Nat.pow_add, Nat.mul_assoc]
  -- the exponent of the word is no larger than the number of zeros
  have hkle : k ≤ j + e := by
    rw [Nat.div_one, hvalue] at hlog
    by_cases hzero : m = 0
    · rw [hzero, Nat.zero_mul] at hlog
      have hnone : k = 0 := hlog
      omega
    · have hpos : 0 < m * 2 ^ (j + e) :=
        Nat.mul_pos (Nat.pos_of_ne_zero hzero) (Nat.two_pow_pos _)
      have hlt : (m * 2 ^ (j + e)).log2 < 53 + (j + e) := by
        rw [Nat.log2_lt hpos.ne', Nat.pow_add 2 53]
        exact Nat.mul_lt_mul_of_pos_right hm (Nat.two_pow_pos _)
      omega
  have hsplit : n * unitsPerOne = m * 2 ^ (j + e - k) * 2 ^ k := by
    rw [hvalue, Nat.mul_assoc, ← Nat.pow_add, Nat.sub_add_cancel hkle]
  rw [hsplit, Nat.one_mul] at hrounds
  have hexact := hrounds.exact (Nat.two_pow_pos k)
  have hb := binadeSize_eq
  have hfinite : k * binadeSize + r < infinity := by
    rw [infinity, hb]
    omega
  have hmagnitude : (ofNat n).magnitude = k * binadeSize + r := by
    rw [ofNat, magnitude_ofRatio, hword, Nat.min_eq_left hfinite.le]
  refine ⟨?_, ?_⟩
  · rw [units_eq, hmagnitude, wordUnits_parts hr fun h => (hk h).1, hsplit, hexact]
  · rwa [isFinite_iff, hmagnitude]

theorem unitsPerOne_pos : 0 < unitsPerOne := by
  obtain ⟨e, -, hunits⟩ := exists_unitsPerOne
  rw [hunits]
  exact Nat.two_pow_pos e

theorem magnitude_ofNat_mono {m n : Nat} (h : m ≤ n) (hm : (ofNat m).units = m * unitsPerOne) :
    (ofNat m).magnitude ≤ (ofNat n).magnitude := by
  show _ ≤ (ofRatio false n 1).magnitude
  rw [magnitude_ofRatio, Nat.le_min]
  refine ⟨le_nearestWord_of_le_units Nat.one_pos ?_, ?_⟩
  · rw [← units_eq, hm, Nat.mul_one]
    exact Nat.mul_le_mul_right _ h
  · rw [ofNat, magnitude_ofRatio]
    exact Nat.min_le_right ..

/-- No number other than zero is rounded below one, -/
theorem unitsPerOne_le_ofNat {n : Nat} (hn : 0 < n) : unitsPerOne ≤ (ofNat n).units := by
  obtain ⟨hone, -⟩ := ofNat_exact (n := 1) (m := 1) (j := 0) rfl (by decide) (by decide)
  have hle := wordUnits_strictMono.monotone (magnitude_ofNat_mono (show 1 ≤ n from hn) hone)
  rwa [← units_eq, ← units_eq, hone, Nat.one_mul] at hle

/-- nor up by more than one part in `2 ^ 53`. -/
theorem units_ofNat_le {n : Nat} (hn : 0 < n) :
    2 ^ 53 * (ofNat n).units ≤ (2 ^ 53 + 1) * (n * unitsPerOne) := by
  obtain ⟨e, he, hunits⟩ := exists_unitsPerOne
  have hbits : 2 ^ 52 * 1 ≤ n * unitsPerOne := by
    rw [Nat.mul_one, hunits]
    exact (Nat.pow_le_pow_right (by decide) (by omega)).trans (Nat.le_mul_of_pos_left _ hn)
  have hle := wordUnits_nearestWord_le Nat.one_pos hbits
  have hword : (ofNat n).magnitude ≤ nearestWord (n * unitsPerOne) 1 := by
    rw [ofNat, magnitude_ofRatio]
    exact Nat.min_le_left ..
  rw [Nat.mul_one] at hle
  exact (Nat.mul_le_mul_left _ (wordUnits_strictMono.monotone hword)).trans hle

theorem isFinite_ofNat {n : Nat} (hn : n ≤ 2 ^ 64) : (ofNat n).isFinite = true := by
  obtain ⟨hlimit, hfinite⟩ :=
    ofNat_exact (n := 2 ^ 64) (m := 1) (j := 64) (by decide) (by decide) (by decide)
  have hfinite := isFinite_iff.mp hfinite
  have hword : nearestWord (n * unitsPerOne) 1 ≤ (ofNat (2 ^ 64)).magnitude := by
    refine nearestWord_le_of_units_le Nat.one_pos ?_
    rw [← units_eq, hlimit, Nat.mul_one]
    exact Nat.mul_le_mul_right _ hn
  rw [isFinite_iff, ofNat, magnitude_ofRatio]
  omega

/-! ### Products and quotients -/

/-- The product of whole numbers is the number that their exact product rounds to, -/
theorem mul_exact {x f g : Binary64} (hx : x.isFinite = true) {a b : Nat}
    (hf : f.units = a * unitsPerOne) (hg : g.units = b * unitsPerOne)
    (hsign : f.negative = g.negative)
    (h : (Span.ofNumber x).Contains (a * b * Span.quartersPerOne)) :
    f.mul g = ofParts false x.magnitude := by
  have hone := unitsPerOne_pos
  have hden : 0 < unitsPerOne * unitsPerOne := Nat.mul_pos hone hone
  have hratio : ((a * unitsPerOne * (b * unitsPerOne) : Nat) : ℚ) /
      (unitsPerOne * unitsPerOne : Nat) = a * b := by
    rw [div_eq_iff (by exact_mod_cast hden.ne')]
    push_cast
    ring
  rw [mul, ofRatio, hf, hg, hsign, bne_self_eq_false, nearest_of_contains hx hden]
  rwa [hratio]

/-- and so is the quotient. -/
theorem div_exact {x f g : Binary64} (hx : x.isFinite = true) {a b : Nat} (hb : 0 < b)
    (hf : f.units = a * unitsPerOne) (hg : g.units = b * unitsPerOne)
    (hsign : f.negative = g.negative)
    (h : (Span.ofNumber x).Contains (a / b * Span.quartersPerOne)) :
    f.div g = ofParts false x.magnitude := by
  have hone := unitsPerOne_pos
  have hden : 0 < b * unitsPerOne := Nat.mul_pos hb hone
  have hratio : ((a * unitsPerOne : Nat) : ℚ) / (b * unitsPerOne : Nat) = a / b := by
    push_cast
    exact mul_div_mul_right _ _ (by exact_mod_cast hone.ne')
  rw [div, ofRatio, hf, hg, hsign, bne_self_eq_false, nearest_of_contains hx hden]
  rwa [hratio]

/-- A quotient is no larger than what was divided. -/
theorem magnitude_div_le (f : Binary64) {g : Binary64} (hg : unitsPerOne ≤ g.units) :
    (f.div g).magnitude ≤ f.magnitude := by
  have hden : 0 < g.units := Nat.lt_of_lt_of_le unitsPerOne_pos hg
  rw [div, magnitude_ofRatio]
  exact (Nat.min_le_left ..).trans
    (nearestWord_le_of_units_le hden (Nat.mul_le_mul_left f.units hg))

/-- The product of two rounded numbers is finite if the exact one rounds to a word that is not
among the two largest. -/
theorem isFinite_mul_ofNat {a b word : Nat} (ha : 0 < a) (hb : 0 < b) (hword : word + 3 ≤ infinity)
    (h : 4 * (a * b * unitsPerOne) ≤ (Span.ofWord word).high) :
    ((ofNat a).mul (ofNat b)).isFinite = true := by
  have hone := unitsPerOne_pos
  have hf := units_ofNat_le ha
  have hg := units_ofNat_le hb
  obtain ⟨k, hthird, hfirst⟩ : ∃ k, wordSignificand (infinity - 3) = (2 ^ 53 - 3, k) ∧
      wordSignificand (infinity - 1) = (2 ^ 53 - 1, k) := ⟨2045, by decide, by decide⟩
  have hbound := h.trans (Span.high_ofWord_mono (show word ≤ infinity - 3 by omega))
  rw [Span.high_ofWord_eq, hthird] at hbound
  have hnearest : nearestWord ((ofNat a).units * (ofNat b).units * unitsPerOne)
      (unitsPerOne * unitsPerOne) ≤ infinity - 1 := by
    refine nearestWord_le (Nat.mul_pos hone hone) ?_
    rw [Span.high_ofWord_eq, hfirst]
    dsimp only at hbound ⊢
    have hpow := Nat.two_pow_pos k
    generalize 2 ^ k = p at *
    generalize (ofNat a).units = f at *
    generalize (ofNat b).units = g at *
    generalize unitsPerOne = u at *
    refine Nat.lt_of_mul_lt_mul_left (a := 2 ^ 106) ?_
    calc 2 ^ 106 * (4 * (f * g * u))
        = 4 * u * (2 ^ 53 * f * (2 ^ 53 * g)) := by ring
      _ ≤ 4 * u * ((2 ^ 53 + 1) * (a * u) * ((2 ^ 53 + 1) * (b * u))) :=
        Nat.mul_le_mul_left _ (Nat.mul_le_mul hf hg)
      _ = (2 ^ 53 + 1) ^ 2 * (u * u) * (4 * (a * b * u)) := by ring
      _ ≤ (2 ^ 53 + 1) ^ 2 * (u * u) * ((4 * (2 ^ 53 - 3) + 2) * p) :=
        Nat.mul_le_mul_left _ hbound
      _ = (2 ^ 53 + 1) ^ 2 * (4 * (2 ^ 53 - 3) + 2) * (p * (u * u)) := by ring
      _ < 2 ^ 106 * (4 * (2 ^ 53 - 1) + 2) * (p * (u * u)) :=
        Nat.mul_lt_mul_of_pos_right (by norm_num) (Nat.mul_pos hpow (Nat.mul_pos hone hone))
      _ = 2 ^ 106 * ((4 * (2 ^ 53 - 1) + 2) * p * (u * u)) := by ring
  rw [isFinite_iff, mul, magnitude_ofRatio]
  exact Nat.lt_of_le_of_lt ((Nat.min_le_left ..).trans hnearest) (by decide)

end PipelineWatch.Decimal.Binary64
