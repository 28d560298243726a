import PipelineWatch.Proofs.Json.Collected

/-!
What becomes of the fractions of a document when it is written in the layout of the producers
and read again. Each is read as a finite number of the same sign, which need not be the
one that was written: the reader rounds at every step. Where no more than one step rounds,
it is.
-/
namespace PipelineWatch.Json

open Decimal (Binary64 Layout Span significantDigits leadingExponent)
open Decimal.Binary64 (ofParts infinity unitsPerOne)
open Text.Utf8 (encode ofString)

variable {x : Binary64}

/-! ### No number is read as infinite -/

/-- A last place that is not behind the point is one of the significant digits. -/
theorem collected_of_nonneg (h : 0 ≤ (collected x).power) :
    x.isZero = false ∧ (collected x).digits = (Decimal.shortest .up x).digits ∧
      (collected x).power = (Decimal.shortest .up x).power := by
  have hpower : (collected x).power = shownPlace x := rfl
  have hscientific : ¬ (-4 ≤ leadingExponent x ∧ leadingExponent x < 16) := by
    intro hpositional
    rw [hpower, shownPlace_positional hpositional] at h
    omega
  have hplace := shownPlace_scientific hscientific
  cases hx : x.isZero with
  | true =>
    refine absurd ?_ hscientific
    rw [leadingExponent, if_pos hx]
    decide
  | false =>
    have hlast := Decimal.lastPlace_significantDigits hx
    refine ⟨rfl, ?_, by rw [hpower, hplace, hlast]⟩
    rw [collected, hplace, Int.sub_self, significantDigits, if_neg (by simp [hx]),
      Nat.ofDigitChars_ten_toDigits]
    exact Nat.mul_one _

/-- The product for the two largest numbers, where the rounding of its factors matters. -/
theorem isFinite_product_top (negative : Bool) {word : Nat}
    (h : word = infinity - 1 ∨ word = infinity - 2) :
    ((Binary64.ofNat (collected (ofParts negative word)).digits).mul
      (powerOfTen (collected (ofParts negative word)).power.toNat)).isFinite = true := by
  rcases h with rfl | rfl <;> cases negative <;> decide +kernel

theorem isFinite_product (hx : x.isFinite = true) (h : 0 ≤ (collected x).power) :
    ((Binary64.ofNat (collected x).digits).mul
      (powerOfTen (collected x).power.toNat)).isFinite = true := by
  have hfinite := Binary64.isFinite_iff.mp hx
  by_cases hword : x.magnitude + 3 ≤ infinity
  · obtain ⟨hzero, hdigits, -⟩ := collected_of_nonneg h
    have hhigh := (hasPoint_collected x).bounds.2.1
    have hcast : (collected x).power = ((collected x).power.toNat : Int) := by omega
    rw [hcast, zpow_natCast] at hhigh
    refine Binary64.isFinite_mul_ofNat ?_ (Nat.pow_pos (by decide)) hword ?_
    · rw [hdigits]
      exact Decimal.shortest_digits_pos hzero .up
    · have hhigh : (collected x).digits * 10 ^ (collected x).power.toNat * Span.quartersPerOne ≤
          (Span.ofNumber x).high := by exact_mod_cast hhigh
      calc 4 * ((collected x).digits * 10 ^ (collected x).power.toNat * unitsPerOne)
          = (collected x).digits * 10 ^ (collected x).power.toNat * Span.quartersPerOne := by
            rw [Span.quartersPerOne]
            ring
        _ ≤ _ := hhigh
  · have hlargest : x.magnitude = infinity - 1 ∨ x.magnitude = infinity - 2 := by omega
    have htop := isFinite_product_top x.negative hlargest
    rwa [Binary64.ofParts_self] at htop

/-- The digits of a finite number are scaled to a finite one, with no sign. -/
theorem scaled?_collected (hx : x.isFinite = true) :
    ∃ y, scaled? (collected x).digits (collected x).power = some y ∧ y.isFinite = true ∧
      y.negative = false := by
  by_cases hpower : (collected x).power < 0
  · exact scaled?_down hpower (Nat.le_of_lt (collected_digits_lt x))
  · have hpower := Int.not_lt.mp hpower
    obtain ⟨hzero, -, hplace⟩ := collected_of_nonneg hpower
    have hlimit := Decimal.shortest_power_le hzero .up hx
    have hfinite := isFinite_product hx hpower
    exact ⟨_, scaled?_up hpower (hplace ▸ hlimit) hfinite, hfinite, negative_mul_powerOfTen ..⟩

/-! ### What a number is read as -/

/-- The number that is read from the text of a finite one. -/
def reread (x : Binary64) : Binary64 :=
  match scaled? (collected x).digits (collected x).power with
  | some y => if x.negative then y.neg else y
  | none => x

theorem spellsScalar_reread (hx : x.isFinite = true) :
    SpellsScalar (.float (reread x)) (encode (Layout.producer.write x).toList) := by
  obtain ⟨n, hs, hv⟩ := exists_numeral hx
  obtain ⟨y, hy, -, -⟩ := scaled?_collected hx
  rw [hy] at hv
  refine .number hs (hv.trans ?_)
  rw [reread, hy]
  rfl

/-- It is the scaled digits with the sign of the number. -/
theorem exists_reread (hx : x.isFinite = true) :
    ∃ word, word < infinity ∧ reread x = ofParts x.negative word ∧
      scaled? (collected x).digits (collected x).power = some (ofParts false word) := by
  obtain ⟨y, hy, hfinite, hsign⟩ := scaled?_collected hx
  have hself : ofParts false y.magnitude = y := by rw [← hsign, Binary64.ofParts_self]
  refine ⟨y.magnitude, Binary64.isFinite_iff.mp hfinite, ?_, by rw [hy, hself]⟩
  rw [reread, hy]
  cases x.negative with
  | false => exact hself.symm
  | true =>
    simp only [if_true, Binary64.neg, hsign]
    rfl

/-- It is finite and has the same sign. -/
theorem reread_finite (hx : x.isFinite = true) :
    (reread x).isFinite = true ∧ (reread x).negative = x.negative := by
  obtain ⟨word, hlt, hword, -⟩ := exists_reread hx
  rw [hword]
  exact ⟨Binary64.isFinite_ofParts hlt _,
    Binary64.negative_ofParts (Nat.lt_trans hlt Binary64.infinity_lt_signWord) _⟩

/-- A number is read as itself just if its digits are scaled to its magnitude. -/
theorem reread_eq_self_iff (hx : x.isFinite = true) :
    reread x = x ↔
      scaled? (collected x).digits (collected x).power = some (ofParts false x.magnitude) := by
  obtain ⟨word, hlt, hword, hscaled⟩ := exists_reread hx
  have hmagnitude : ∀ negative, (ofParts negative word).magnitude = word :=
    Binary64.magnitude_ofParts (Nat.lt_trans hlt Binary64.infinity_lt_signWord)
  constructor
  · intro h
    have hsame := congrArg Binary64.magnitude (hword.symm.trans h)
    rw [hmagnitude] at hsame
    rw [hscaled, hsame]
  · intro h
    have hsame := congrArg Binary64.magnitude (Option.some.inj (hscaled.symm.trans h))
    rw [hmagnitude, Binary64.magnitude_ofParts
      (Nat.lt_trans (Binary64.isFinite_iff.mp hx) Binary64.infinity_lt_signWord)] at hsame
    rw [hword, hsame, Binary64.ofParts_self]

/-- A number is read as itself where neither its digits nor the power of ten are rounded: the
digits fit 53 bits, but for zeros behind them, and the place of the last is no more than 22
off the point. -/
theorem reread_exact (hx : x.isFinite = true) {m j : Nat}
    (hdigits : (collected x).digits = m * 2 ^ j) (hm : m < 2 ^ 53)
    (hpower : (collected x).power.natAbs ≤ 22) : reread x = x := by
  have hexact : (Binary64.ofNat (collected x).digits).units =
      (collected x).digits * unitsPerOne := by
    by_cases hzero : m = 0
    · rw [hzero, Nat.zero_mul] at hdigits
      exact (Binary64.ofNat_exact (m := 0) (j := 0) hdigits (by decide) (by decide)).1
    · -- the digits fit a word of 64 bits, and the zeros even more so
      have hlt : 2 ^ j < 2 ^ 64 := by
        refine Nat.lt_of_le_of_lt ?_ (collected_digits_lt x)
        rw [hdigits]
        exact Nat.le_mul_of_pos_left _ (Nat.pos_of_ne_zero hzero)
      have hj := (Nat.pow_lt_pow_iff_right (by decide)).mp hlt
      exact (Binary64.ofNat_exact hdigits hm (by omega)).1
  exact (reread_eq_self_iff hx).mpr (scaled?_exact hx hexact hpower (hasPoint_collected x))

/-- What the text of a finite number in the layout of the producers is read as. -/
structure ReadAgain (x : Binary64) : Prop where
  /-- It is read as one number, -/
  read : readTree (ofString (Layout.producer.write x)) = .ok (.float (reread x))
  /-- which is finite and has the sign of the one that was written. -/
  finite : (reread x).isFinite = true
  sign : (reread x).negative = x.negative
  /-- Its own text is the same again just if the number is. -/
  shown : Layout.producer.write (reread x) = Layout.producer.write x ↔ reread x = x
  /-- The digits that stand in the text round to the number that was written, -/
  denotes : (Span.ofNumber x).HasPoint (collected x).digits (collected x).power
  /-- so that it is the scaling of the reader which changes it, if anything does, -/
  scaled : reread x = x ↔
    scaled? (collected x).digits (collected x).power = some (ofParts false x.magnitude)
  /-- and nothing does where the reader rounds once. -/
  short : ∀ m j : Nat, (collected x).digits = m * 2 ^ j → m < 2 ^ 53 →
    (collected x).power.natAbs ≤ 22 → reread x = x

theorem readAgain (hx : x.isFinite = true) : ReadAgain x where
  read := by
    have hspelled := SpellsDocument.mk (a := []) (z := []) .nil
      ((spellsScalar_reread hx).spells maxDepth) .nil
    rw [List.nil_append, List.append_nil] at hspelled
    rw [← String.ofList_toList (s := Layout.producer.write x), Text.Utf8.ofString_ofList]
    exact readTree_eq_ok_iff.mpr hspelled
  finite := (reread_finite hx).1
  sign := (reread_finite hx).2
  shown := ⟨Decimal.write_injective (reread_finite hx).1 hx, fun h => by rw [h]⟩
  denotes := hasPoint_collected x
  scaled := reread_eq_self_iff hx
  short _ _ hdigits hm hpower := reread_exact hx hdigits hm hpower

/-! ### Documents -/

/-- The fractions of the document are those that are read from their texts. -/
def Kept (v : Json) : Prop :=
  ∀ x, .float x ∈ leaves v → reread x = x

variable {style : Style} {v : Json}

/-- A text in the layout of the producers spells the document with each fraction replaced by
the one that is read from its text, and so the same document where they are kept. -/
theorem spellsDocument_reread (hs : style.Readable) (hn : style.numbers = .producer)
    (hd : v.depth ≤ maxDepth) (hb : v.Bounded) (hf : v.Finite) :
    SpellsDocument (mapFloats reread v) (ofString (write style v)) := by
  refine spellsDocument_write hs hd hb fun x hx => ?_
  rw [hn]
  exact spellsScalar_reread (hf x hx)

theorem mapFloats_reread_eq_iff : mapFloats reread v = v ↔ Kept v :=
  mapFloats_eq_self_iff

end PipelineWatch.Json
