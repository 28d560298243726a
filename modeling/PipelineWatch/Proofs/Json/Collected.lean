import PipelineWatch.Proofs.Decimal.Notation
import PipelineWatch.Proofs.Json.Scaling
import PipelineWatch.Proofs.Json.Writing

/-!
What a reader collects from the text of a fraction. The digits that stand in the text of a
finite number, in the layout of the producers, fit a word of 64 bits, so none is dropped, and
they denote a real that rounds to the number. The reader scales them by the place of the last.
-/
namespace PipelineWatch.Json

open Decimal (Binary64 Layout Scaled Span significantDigits leadingExponent lastPlace signOf
  positional exponentSign exponentDigits behindFirst)
open Text (wordSize)
open Text.Utf8 (encode)

/-! ### The value of a text -/

/-- Digits on both sides of a point are collected together. -/
theorem value?_fraction {whole fraction : List Char}
    (h : ∀ c ∈ whole ++ fraction, c.isDigit = true)
    (hlt : Nat.ofDigitChars 10 (whole ++ fraction) 0 < wordSize) (negative : Bool)
    (exponent : Option (Bool × Bytes)) :
    (Numeral.mk negative (encode whole) (some (encode fraction)) exponent).value? =
      scaledBy? negative (Nat.ofDigitChars 10 (whole ++ fraction) 0) (-fraction.length)
        exponent := by
  obtain ⟨hwhole, hfraction⟩ := List.forall_mem_append.mp h
  rw [Nat.ofDigitChars_append] at hlt ⊢
  have hle := Text.le_ofDigitChars fraction (Nat.ofDigitChars 10 whole 0)
  have hplace : ((0 : Nat) : Int) - (0 + fraction.length : Nat) = -fraction.length := by omega
  simp only [Numeral.value?, growDigits_encode hwhole (Nat.lt_of_le_of_lt hle hlt), numberBy?,
    growDigits_encode hfraction hlt, List.length_nil, hplace]

theorem spellsExponent_signed {width : Nat} (hwidth : 0 < width) (exponent : Int) :
    SpellsExponent (some (decide (exponent < 0), encode (exponentDigits width exponent)))
      (encode ('e' :: exponentSign exponent :: exponentDigits width exponent)) := by
  have hne : exponentDigits width exponent ≠ [] := by
    have hle := Decimal.le_length_exponentDigits width exponent
    exact List.length_pos_iff.mp (Nat.lt_of_lt_of_le hwidth hle)
  have hdigits := digits_encode (Decimal.isDigit_exponentDigits width exponent) hne
  have hmark : String.utf8EncodeChar 'e' = [0x65] := by decide
  rw [Text.Utf8.encode_cons, Text.Utf8.encode_cons, hmark, exponentSign]
  by_cases hneg : exponent < 0
  · have hsign : String.utf8EncodeChar '-' = [Byte.minus] := by decide
    rw [if_pos hneg, decide_eq_true hneg, hsign]
    exact .minus rfl hdigits
  · have hsign : String.utf8EncodeChar '+' = [Byte.plus] := by decide
    rw [if_neg hneg, decide_eq_false hneg, hsign]
    exact .plus rfl hdigits

/-- An exponent moves the place of the digits. -/
theorem scaledBy?_exponent (negative : Bool) (digits : Nat) (scale : Int) (width : Nat)
    {exponent : Int} (hlt : exponent.natAbs < exponentLimit) :
    scaledBy? negative digits scale
        (some (decide (exponent < 0), encode (exponentDigits width exponent))) =
      (scaled? digits (scale + exponent)).map (signed negative) := by
  have hvalue := Decimal.ofDigitChars_exponentDigits width exponent
  have hgrow : growDigits exponentLimit 0 0 (encode (exponentDigits width exponent)) =
      (exponent.natAbs, 0 + (exponentDigits width exponent).length, []) := by
    rw [growDigits_encode (Decimal.isDigit_exponentDigits width exponent) (hvalue ▸ hlt), hvalue]
  simp only [scaledBy?, hgrow, decide_eq_true_eq]
  congr 2
  split <;> omega

section

variable {d : Char} {ds : List Char} (h : ∀ c ∈ d :: ds, c.isDigit = true)
  (hlt : Nat.ofDigitChars 10 (d :: ds) 0 < wordSize)

include h hlt

/-- The digits before an exponent: without a fraction, if there is one only. -/
theorem exists_fraction :
    ∃ f, SpellsFraction f (encode (behindFirst ds)) ∧ ∀ negative e,
      (Numeral.mk negative (encode [d]) f (some e)).value? =
        scaledBy? negative (Nat.ofDigitChars 10 (d :: ds) 0) (-ds.length) (some e) := by
  cases ds with
  | nil =>
    refine ⟨none, .none, fun negative e => ?_⟩
    simp only [Numeral.value?, growDigits_encode h hlt, numberBy?, List.length_nil, Nat.cast_zero,
      Int.neg_zero]
  | cons c cs =>
    have hpoint : String.utf8EncodeChar '.' = [Byte.point] := by decide
    have htext : encode (behindFirst (c :: cs)) = Byte.point :: encode (c :: cs) := by
      rw [behindFirst, Text.Utf8.encode_cons, hpoint]
      rfl
    refine ⟨some (encode (c :: cs)), ?_, fun negative e => value?_fraction h hlt negative _⟩
    rw [htext]
    exact .some (digits_encode (List.forall_mem_cons.mp h).2 (List.cons_ne_nil c cs))

/-- A text in scientific notation has the value of its digits, scaled. -/
theorem exists_numeral_scientific (hzero : d ≠ '0') (negative : Bool) {width : Nat}
    (hwidth : 0 < width) {exponent : Int} (hexponent : exponent.natAbs < exponentLimit) :
    ∃ n : Numeral, SpellsNumeral n ((if negative then [Byte.minus] else []) ++
        encode (Decimal.scientific width (d :: ds) exponent)) ∧
      n.value? = (scaled? (Nat.ofDigitChars 10 (d :: ds) 0)
        (lastPlace (d :: ds) exponent)).map (signed negative) := by
  have hfirst : ∀ c ∈ [d], c.isDigit = true :=
    Decimal.isDigit_singleton (h d (List.mem_cons_self ..))
  have hwhole : SpellsWhole (encode [d]) :=
    spellsWhole_encode hfirst (List.cons_ne_nil d []) (.inr (by simpa using hzero))
  have hspelled := spellsExponent_signed hwidth exponent
  obtain ⟨f, hf, hvalue⟩ := exists_fraction h hlt
  have htext : encode (Decimal.scientific width (d :: ds) exponent) =
      encode [d] ++ encode (behindFirst ds) ++
        encode ('e' :: exponentSign exponent :: exponentDigits width exponent) := by
    rw [Decimal.scientific_cons, ← Text.Utf8.encode_append, ← Text.Utf8.encode_append]
    rfl
  have hplace : -(ds.length : Int) + exponent = lastPlace (d :: ds) exponent := by
    rw [lastPlace, List.length_cons, Nat.add_sub_cancel]
    omega
  refine ⟨⟨negative, encode [d], f,
    some (decide (exponent < 0), encode (exponentDigits width exponent))⟩, ?_, ?_⟩
  · rw [htext, ← List.append_assoc, ← List.append_assoc]
    exact .mk hwhole hf hspelled
  · rw [hvalue, scaledBy?_exponent _ _ _ _ hexponent, hplace]

end

/-- A text in positional notation has the value of its digits and of the zeros behind them. -/
theorem exists_numeral_positional {digits : List Char} (hd : ∀ c ∈ digits, c.isDigit = true)
    (hne : digits ≠ []) {exponent : Int} (hzero : digits.head? = some '0' → exponent = 0)
    (hlt : Nat.ofDigitChars 10 digits 0 *
      10 ^ (lastPlace digits exponent - min (lastPlace digits exponent) (-1)).toNat < wordSize)
    (negative : Bool) :
    ∃ n : Numeral, SpellsNumeral n ((if negative then [Byte.minus] else []) ++
        encode (positional digits exponent)) ∧
      n.value? = (scaled? (Nat.ofDigitChars 10 digits 0 *
          10 ^ (lastPlace digits exponent - min (lastPlace digits exponent) (-1)).toNat)
        (min (lastPlace digits exponent) (-1))).map (signed negative) := by
  obtain ⟨whole, fraction, hp⟩ := Decimal.exists_pointed hd hne exponent
  obtain ⟨hwhole, hfraction⟩ := List.forall_mem_append.mp hp.isDigit
  have hspelled : SpellsWhole (encode whole) := by
    refine spellsWhole_encode hwhole hp.whole_ne_nil ?_
    rcases hp.head with h | ⟨hhead, hlen⟩
    · exact .inl h
    · by_cases h : digits.head? = some '0'
      · rw [hzero h] at hlen
        obtain ⟨c, rfl⟩ := List.length_eq_one_iff.mp hlen
        rw [h] at hhead
        exact .inl (congrArg (fun c => [c]) (Option.some.inj hhead))
      · exact .inr (hhead ▸ h)
  have hpoint : String.utf8EncodeChar '.' = [Byte.point] := by decide
  have htext : encode (positional digits exponent) =
      encode whole ++ Byte.point :: encode fraction := by
    rw [hp.text, Text.Utf8.encode_append, Text.Utf8.encode_cons, hpoint]
    rfl
  rw [← hp.value] at hlt ⊢
  refine ⟨⟨negative, encode whole, some (encode fraction), none⟩, ?_, ?_⟩
  · have hs := SpellsNumeral.mk (n := ⟨negative, encode whole, some (encode fraction), none⟩)
      hspelled (.some (digits_encode hfraction hp.fraction_ne_nil)) .none
    rw [htext, ← List.append_assoc]
    rwa [List.append_nil] at hs
  · rw [value?_fraction hp.isDigit hlt, ← hp.place]
    rfl

/-! ### The text of a finite number -/

/-- The place of the last digit that the text of a number shows. Positional notation shows one
behind the point at least. -/
def shownPlace (x : Binary64) : Int :=
  let place := lastPlace (significantDigits x) (leadingExponent x)
  if -4 ≤ leadingExponent x ∧ leadingExponent x < 16 then min place (-1) else place

/-- The digits that the text of a number shows, those of zeros behind the last significant one
included, and their place. -/
def collected (x : Binary64) : Scaled where
  digits := Nat.ofDigitChars 10 (significantDigits x) 0 *
    10 ^ (lastPlace (significantDigits x) (leadingExponent x) - shownPlace x).toNat
  power := shownPlace x

variable {x : Binary64}

theorem shownPlace_positional (h : -4 ≤ leadingExponent x ∧ leadingExponent x < 16) :
    shownPlace x = min (lastPlace (significantDigits x) (leadingExponent x)) (-1) :=
  if_pos h

theorem shownPlace_scientific (h : ¬ (-4 ≤ leadingExponent x ∧ leadingExponent x < 16)) :
    shownPlace x = lastPlace (significantDigits x) (leadingExponent x) :=
  if_neg h

theorem shownPlace_le (x : Binary64) :
    shownPlace x ≤ lastPlace (significantDigits x) (leadingExponent x) := by
  by_cases h : -4 ≤ leadingExponent x ∧ leadingExponent x < 16
  · rw [shownPlace_positional h]
    exact Int.min_le_left ..
  · exact (shownPlace_scientific h).le

/-- The collected digits denote one of the reals of the number. -/
theorem hasPoint_collected (x : Binary64) :
    (Span.ofNumber x).HasPoint (collected x).digits (collected x).power := by
  have hle := shownPlace_le x
  have hcontains := Decimal.body_contains .producer x
  rw [Decimal.denotes_body_eq] at hcontains
  rw [Span.HasPoint, collected]
  convert hcontains using 2
  push_cast
  rw [mul_assoc, ← zpow_natCast, ← zpow_add₀ (by norm_num)]
  congr 2
  omega

theorem collected_digits_lt (x : Binary64) : (collected x).digits < wordSize := by
  have hlt := Decimal.ofDigitChars_significantDigits_lt x
  have hword : wordSize = 2 ^ 64 := rfl
  rw [collected]
  dsimp only
  by_cases hshown : lastPlace (significantDigits x) (leadingExponent x) ≤ shownPlace x
  · rw [Int.toNat_of_nonpos (by omega), Nat.pow_zero, Nat.mul_one]
    omega
  · -- there are zeros behind the last digit, and still no more than 17 digits in all
    have hnotation : -4 ≤ leadingExponent x ∧ leadingExponent x < 16 := by
      by_contra h
      exact hshown (shownPlace_scientific h).ge
    have hlen := List.length_pos_iff.mpr (Decimal.significantDigits_ne_nil x)
    have hdigits := Text.ofDigitChars_lt (Decimal.isDigit_significantDigits x) 0
    rw [Nat.zero_add, Nat.one_mul] at hdigits
    rw [shownPlace_positional hnotation] at hshown ⊢
    rw [lastPlace] at hshown ⊢
    generalize (significantDigits x).length = len at *
    generalize hzeros : (leadingExponent x - (len - 1 : Nat) -
      min (leadingExponent x - (len - 1 : Nat)) (-1)).toNat = zeros
    calc Nat.ofDigitChars 10 (significantDigits x) 0 * 10 ^ zeros
        < 10 ^ len * 10 ^ zeros := Nat.mul_lt_mul_of_pos_right hdigits (Nat.pow_pos (by decide))
      _ = 10 ^ (len + zeros) := (Nat.pow_add ..).symm
      _ ≤ 10 ^ 17 := Nat.pow_le_pow_right (by decide) (by omega)
      _ ≤ wordSize := by decide

theorem leadingExponent_lt_exponentLimit (hx : x.isFinite = true) :
    (leadingExponent x).natAbs < exponentLimit := by
  have hbounds := Decimal.leadingExponent_bounds hx
  have hlimit : exponentLimit = 2 ^ 31 := rfl
  omega

/-- The text of a finite number spells its collected digits, scaled, with its sign. -/
theorem exists_numeral (hx : x.isFinite = true) :
    ∃ n : Numeral, SpellsNumeral n (encode (Layout.producer.write x).toList) ∧
      n.value? = (scaled? (collected x).digits (collected x).power).map (signed x.negative) := by
  have hd := Decimal.isDigit_significantDigits x
  have hne := Decimal.significantDigits_ne_nil x
  have hlt := collected_digits_lt x
  have hminus : String.utf8EncodeChar '-' = [Byte.minus] := by decide
  have htext : encode (Layout.producer.write x).toList =
      (if x.negative then [Byte.minus] else []) ++ encode (Layout.producer.body x) := by
    rw [Decimal.write_finite hx, Text.Utf8.encode_append, signOf]
    cases x.negative with
    | true => exact congrArg (· ++ _) hminus
    | false => rfl
  rw [htext, Decimal.body_producer]
  rw [collected] at hlt ⊢
  dsimp only at hlt ⊢
  by_cases h : -4 ≤ leadingExponent x ∧ leadingExponent x < 16
  · rw [shownPlace_positional h] at hlt ⊢
    rw [if_pos h]
    refine exists_numeral_positional hd hne (fun hzero => ?_) hlt x.negative
    rw [leadingExponent, if_pos ((Decimal.head?_significantDigits x).mp hzero)]
  · rw [shownPlace_scientific h, Int.sub_self, Int.toNat_zero, Nat.pow_zero, Nat.mul_one] at hlt ⊢
    rw [if_neg h]
    have hzero : (significantDigits x).head? ≠ some '0' := by
      intro hzero
      refine h ?_
      rw [leadingExponent, if_pos ((Decimal.head?_significantDigits x).mp hzero)]
      decide
    obtain ⟨d, ds, hds⟩ := List.exists_cons_of_ne_nil hne
    rw [hds] at hd hlt hzero ⊢
    exact exists_numeral_scientific hd hlt (by simpa using hzero) x.negative (by decide)
      (leadingExponent_lt_exponentLimit hx)

end PipelineWatch.Json
