import Mathlib.Algebra.Ring.Int.Defs
import Mathlib.Algebra.Ring.Nat
import PipelineWatch.Proofs.Text.Utf8

/-!
The decimal digits of a number: no zero comes first unless it is the only digit, and the
digits give the number back.
-/
namespace PipelineWatch.Text

theorem toDigits_head_ne_zero {n : Nat} (hn : n ≠ 0) {c : Char} {cs : List Char}
    (h : Nat.toDigits 10 n = c :: cs) : c ≠ '0' := by
  induction n using Nat.strongRecOn generalizing c cs with
  | ind n ih =>
    rw [Nat.toDigits_eq_if (by decide)] at h
    split at h
    · next hlt =>
      obtain ⟨rfl, -⟩ := List.cons.inj h
      have key : ∀ k : Fin 10, k.val ≠ 0 → Nat.digitChar k.val ≠ '0' := by decide
      exact key ⟨n, hlt⟩ hn
    · next hge =>
      cases hq : Nat.toDigits 10 (n / 10) with
      | nil => exact absurd hq Nat.toDigits_ne_nil
      | cons d ds =>
        rw [hq] at h
        obtain ⟨rfl, -⟩ := List.cons.inj h
        exact ih (n / 10) (by omega) (by omega) hq

theorem isDigit_toDigits {n : Nat} {c : Char} (h : c ∈ Nat.toDigits 10 n) : c.isDigit = true :=
  Nat.isDigit_of_mem_toDigits (by decide) (by decide) h

theorem isDigit_iff {c : Char} : c.isDigit = true ↔ 0x30 ≤ c.toNat ∧ c.toNat ≤ 0x39 := by
  have hn : c.val.toNat = c.toNat := rfl
  simp [Char.isDigit, UInt32.le_iff_toNat_le, hn]

theorem getLast?_toDigits (n : Nat) :
    (Nat.toDigits 10 n).getLast? = some (Nat.digitChar (n % 10)) := by
  rw [Nat.toDigits_eq_if (by decide)]
  split
  · next hlt => rw [Nat.mod_eq_of_lt hlt, List.getLast?_singleton]
  · rw [List.getLast?_concat]

theorem toDigits_injective {m n : Nat} (h : Nat.toDigits 10 m = Nat.toDigits 10 n) : m = n := by
  have hv := congrArg (fun ds => Nat.ofDigitChars 10 ds 0) h
  simpa using hv

/-- A value only grows with the digits that continue it. -/
theorem le_ofDigitChars (ds : List Char) (value : Nat) :
    value ≤ Nat.ofDigitChars 10 ds value := by
  rw [Nat.ofDigitChars_eq_ofDigitChars_zero]
  have hpos : 1 * value ≤ 10 ^ ds.length * value :=
    Nat.mul_le_mul_right _ (Nat.pow_pos (by decide))
  omega

/-- Digits behind a value leave it below the next one at their place. -/
theorem ofDigitChars_lt {ds : List Char} (h : ∀ c ∈ ds, c.isDigit = true) (value : Nat) :
    Nat.ofDigitChars 10 ds value < (value + 1) * 10 ^ ds.length := by
  induction ds generalizing value with
  | nil => simp
  | cons c ds ih =>
    obtain ⟨hc, hds⟩ := List.forall_mem_cons.mp h
    have hhigh := (isDigit_iff.mp hc).2
    have hzero : '0'.toNat = 0x30 := rfl
    have hnext : 10 * value + (c.toNat - '0'.toNat) + 1 ≤ (value + 1) * 10 := by omega
    rw [Nat.ofDigitChars_cons, List.length_cons, Nat.pow_succ', ← Nat.mul_assoc]
    exact Nat.lt_of_lt_of_le (ih hds _) (Nat.mul_le_mul_right _ hnext)

theorem lt_pow_length_toDigits (n : Nat) : n < 10 ^ (Nat.toDigits 10 n).length := by
  have hlt := ofDigitChars_lt (fun c => isDigit_toDigits (n := n) (c := c)) 0
  rwa [Nat.ofDigitChars_ten_toDigits, Nat.zero_add, Nat.one_mul] at hlt

/-! ### Whole numbers with a sign -/

theorem toList_ofNat (n : Nat) : (toString (Int.ofNat n)).toList = Nat.toDigits 10 n :=
  Nat.toList_repr

theorem toList_negSucc (n : Nat) :
    (toString (Int.negSucc n)).toList = '-' :: Nat.toDigits 10 (n + 1) := by
  rw [show toString (Int.negSucc n) = "-" ++ Nat.repr (n + 1) from rfl, String.toList_append,
    Nat.toList_repr]
  rfl

theorem minus_notMem_toDigits (n : Nat) : '-' ∉ Nat.toDigits 10 n :=
  fun h => absurd (isDigit_toDigits h) (by decide)

theorem integer_injective {m n : Int} (h : (toString m).toList = (toString n).toList) :
    m = n := by
  have differ : ∀ m n : Nat,
      (toString (Int.ofNat m)).toList ≠ (toString (Int.negSucc n)).toList := by
    intro m n h
    rw [toList_ofNat, toList_negSucc] at h
    exact minus_notMem_toDigits m (h ▸ List.mem_cons_self ..)
  cases m with
  | ofNat m =>
    cases n with
    | ofNat n =>
      rw [toList_ofNat, toList_ofNat] at h
      rw [toDigits_injective h]
    | negSucc n => exact absurd h (differ m n)
  | negSucc m =>
    cases n with
    | ofNat n => exact absurd h.symm (differ n m)
    | negSucc n =>
      rw [toList_negSucc, toList_negSucc] at h
      rw [Nat.succ.inj (toDigits_injective (List.cons.inj h).2)]

end PipelineWatch.Text
