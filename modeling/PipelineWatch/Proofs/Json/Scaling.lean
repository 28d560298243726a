import PipelineWatch.Json.Reader.Number
import PipelineWatch.Proofs.Decimal.Arithmetic

/-!
Scaling by powers of ten, as a reader does it. Up to `10 ^ 22` the powers are not rounded, so
what is scaled by them is rounded once, and the result is the number whose reals hold the exact
one. Beyond that it is a finite number at least, as long as it has no reason to be infinite.
-/
namespace PipelineWatch.Json

open Decimal (Binary64 Span)
open Decimal.Binary64 (unitsPerOne ofParts)

/-! ### Powers of ten -/

theorem powerOfTen_exact {n : Nat} (hn : n ≤ 22) :
    (powerOfTen n).units = 10 ^ n * unitsPerOne := by
  have hfive : 5 ^ n < 2 ^ 53 :=
    Nat.lt_of_le_of_lt (Nat.pow_le_pow_right (by decide) hn) (by decide)
  have hten : 10 ^ n = 5 ^ n * 2 ^ n := by rw [← Nat.mul_pow]
  exact (Binary64.ofNat_exact hten hfive (hn.trans (by decide))).1

theorem unitsPerOne_le_powerOfTen (n : Nat) : unitsPerOne ≤ (powerOfTen n).units :=
  Binary64.unitsPerOne_le_ofNat (Nat.pow_pos (by decide))

theorem negative_powerOfTen (n : Nat) : (powerOfTen n).negative = false :=
  Binary64.negative_ofRatio ..

/-! ### Division -/

/-- Dividing by powers of ten makes no number larger, and keeps its sign. -/
theorem divideDown_le (rounds : Nat) (f : Binary64) (n : Nat) :
    (divideDown rounds f n).magnitude ≤ f.magnitude ∧
      (divideDown rounds f n).negative = f.negative := by
  have hdiv : ∀ (f : Binary64) (n : Nat), (f.div (powerOfTen n)).magnitude ≤ f.magnitude ∧
      (f.div (powerOfTen n)).negative = f.negative := by
    intro f n
    refine ⟨Binary64.magnitude_div_le f (unitsPerOne_le_powerOfTen n), ?_⟩
    rw [Binary64.div, Binary64.negative_ofRatio, negative_powerOfTen, Bool.bne_false]
  induction rounds generalizing f n with
  | zero => exact ⟨Nat.le_refl _, rfl⟩
  | succ rounds ih =>
    rw [divideDown]
    split
    · exact hdiv f n
    split
    · exact ⟨Nat.le_refl _, rfl⟩
    · obtain ⟨hle, hsign⟩ := ih (f.div (powerOfTen 308)) (n - 308)
      obtain ⟨hle', hsign'⟩ := hdiv f 308
      exact ⟨hle.trans hle', hsign.trans hsign'⟩

/-! ### Scaling -/

variable {digits : Nat} {power : Int} {x : Binary64}

theorem scaled?_down (hpower : power < 0) (hdigits : digits ≤ 2 ^ 64) :
    ∃ y, scaled? digits power = some y ∧ y.isFinite = true ∧ y.negative = false := by
  obtain ⟨hle, hsign⟩ :=
    divideDown_le (power.natAbs / 308 + 1) (Binary64.ofNat digits) power.natAbs
  refine ⟨_, if_pos hpower, ?_, hsign.trans (Binary64.negative_ofRatio ..)⟩
  exact Binary64.isFinite_iff.mpr
    (Nat.lt_of_le_of_lt hle (Binary64.isFinite_iff.mp (Binary64.isFinite_ofNat hdigits)))

theorem scaled?_up (hpower : 0 ≤ power) (hlimit : power ≤ 308)
    (h : ((Binary64.ofNat digits).mul (powerOfTen power.toNat)).isFinite = true) :
    scaled? digits power = some ((Binary64.ofNat digits).mul (powerOfTen power.toNat)) := by
  simp only [scaled?]
  rw [if_neg (Int.not_lt.mpr hpower), if_pos hlimit, if_pos h]

theorem negative_mul_powerOfTen (digits n : Nat) :
    ((Binary64.ofNat digits).mul (powerOfTen n)).negative = false := by
  rw [Binary64.mul, Binary64.negative_ofRatio, negative_powerOfTen, Bool.bne_false]
  exact Binary64.negative_ofRatio ..

/-- Digits and a power of ten that are not rounded themselves give the number whose reals hold
the decimal. -/
theorem scaled?_exact (hx : x.isFinite = true)
    (hdigits : (Binary64.ofNat digits).units = digits * unitsPerOne)
    (hpower : power.natAbs ≤ 22) (h : (Span.ofNumber x).HasPoint digits power) :
    scaled? digits power = some (ofParts false x.magnitude) := by
  have hten := powerOfTen_exact hpower
  have hsign : (Binary64.ofNat digits).negative = (powerOfTen power.natAbs).negative :=
    (Binary64.negative_ofRatio ..).trans (negative_powerOfTen _).symm
  rw [Span.HasPoint] at h
  by_cases hneg : power < 0
  · have hquotient : (digits : ℚ) * 10 ^ power = digits / (10 ^ power.natAbs : Nat) := by
      rw [show power = -(power.natAbs : Int) by omega, zpow_neg, zpow_natCast, Int.natAbs_neg,
        Int.natAbs_natCast, ← div_eq_mul_inv]
      push_cast
      rfl
    rw [hquotient] at h
    have hdiv := Binary64.div_exact hx (Nat.pow_pos (by decide)) hdigits hten hsign h
    have hrounds : power.natAbs / 308 = 0 := Nat.div_eq_of_lt (by omega)
    simp only [scaled?]
    rw [if_pos hneg, hrounds, divideDown, if_pos (by omega), hdiv]
  · have hproduct : (digits : ℚ) * 10 ^ power = digits * (10 ^ power.natAbs : Nat) := by
      rw [show power = (power.natAbs : Int) by omega, zpow_natCast, Int.natAbs_natCast]
      push_cast
      rfl
    rw [hproduct] at h
    have hmul := Binary64.mul_exact hx hdigits hten hsign h
    have habs : power.toNat = power.natAbs := by omega
    rw [scaled?_up (Int.not_lt.mp hneg) (by omega), habs, hmul]
    rw [habs, hmul]
    exact Binary64.isFinite_ofParts (Binary64.isFinite_iff.mp hx) false

end PipelineWatch.Json
