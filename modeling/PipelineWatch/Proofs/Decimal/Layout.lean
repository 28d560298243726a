import PipelineWatch.Decimal.Layout
import PipelineWatch.Proofs.Decimal.Span
import PipelineWatch.Proofs.Text.Digits

/-!
What the text of a floating-point number denotes. Whatever the layout, the text denotes the
decimal that it was made from, and that decimal rounds to the number; so two finite numbers
never share a text.
-/
namespace PipelineWatch.Decimal

/-! ### Texts as numbers -/

/-- The value of digits with a point among them, or none. -/
def mantissaOf (cs : List Char) : ℚ :=
  let whole := cs.takeWhile (· != '.')
  let fraction := (cs.dropWhile (· != '.')).drop 1
  Nat.ofDigitChars 10 (whole ++ fraction) 0 / 10 ^ fraction.length

/-- The value of digits with a sign in front, or none. -/
def exponentOf : List Char → Int
  | '-' :: ds => -(Nat.ofDigitChars 10 ds 0 : Int)
  | '+' :: ds => Nat.ofDigitChars 10 ds 0
  | ds => Nat.ofDigitChars 10 ds 0

/-- The number that a text without sign denotes, with an exponent behind an `e` or without
one. -/
def denotes (cs : List Char) : ℚ :=
  mantissaOf (cs.takeWhile (· != 'e')) * 10 ^ exponentOf ((cs.dropWhile (· != 'e')).drop 1)

/-- A character that a number is written with. -/
def isNumeric (c : Char) : Bool :=
  c.isDigit || c == '.' || c == 'e' || c == '+' || c == '-'

/-- A text without sign that is no whole number's. -/
structure Fractional (cs : List Char) : Prop where
  numeric : ∀ c ∈ cs, isNumeric c = true
  head : ∃ c ds, cs = c :: ds ∧ c.isDigit = true
  marked : '.' ∈ cs ∨ 'e' ∈ cs

theorem isNumeric_of_isDigit {c : Char} (h : c.isDigit = true) : isNumeric c = true := by
  simp [isNumeric, h]

theorem ne_of_isDigit {c d : Char} (h : c.isDigit = true) (hd : d.isDigit = false) : c ≠ d := by
  rintro rfl
  rw [h] at hd
  cases hd

theorem isDigit_singleton {d : Char} (h : d.isDigit = true) : ∀ c ∈ [d], c.isDigit = true :=
  fun _ hc => List.mem_singleton.mp hc ▸ h

theorem split_at {mark : Char} {as : List Char} (h : ∀ c ∈ as, c ≠ mark) (bs : List Char) :
    (as ++ mark :: bs).takeWhile (· != mark) = as ∧
      ((as ++ mark :: bs).dropWhile (· != mark)).drop 1 = bs := by
  have hpos : ∀ c ∈ as, (c != mark) = true := fun c hc => bne_iff_ne.mpr (h c hc)
  rw [List.takeWhile_append_of_pos hpos, List.dropWhile_append_of_pos hpos]
  simp

theorem split_none {mark : Char} {as : List Char} (h : ∀ c ∈ as, c ≠ mark) :
    as.takeWhile (· != mark) = as ∧ (as.dropWhile (· != mark)).drop 1 = [] := by
  have hpos : ∀ c ∈ as, (c != mark) = true := fun c hc => bne_iff_ne.mpr (h c hc)
  rw [← List.append_nil as, List.takeWhile_append_of_pos hpos, List.dropWhile_append_of_pos hpos]
  simp

theorem mantissaOf_point {whole : List Char} (h : ∀ c ∈ whole, c.isDigit = true)
    (fraction : List Char) :
    mantissaOf (whole ++ '.' :: fraction) =
      Nat.ofDigitChars 10 (whole ++ fraction) 0 / 10 ^ fraction.length := by
  have hpoint : ∀ c ∈ whole, c ≠ '.' := fun c hc => ne_of_isDigit (h c hc) (by decide)
  obtain ⟨htake, hdrop⟩ := split_at hpoint fraction
  rw [mantissaOf, htake, hdrop]

theorem mantissaOf_whole {whole : List Char} (h : ∀ c ∈ whole, c.isDigit = true) :
    mantissaOf whole = Nat.ofDigitChars 10 whole 0 := by
  have hpoint : ∀ c ∈ whole, c ≠ '.' := fun c hc => ne_of_isDigit (h c hc) (by decide)
  obtain ⟨htake, hdrop⟩ := split_none hpoint
  rw [mantissaOf, htake, hdrop]
  simp

theorem denotes_plain {cs : List Char} (h : ∀ c ∈ cs, c ≠ 'e') : denotes cs = mantissaOf cs := by
  obtain ⟨htake, hdrop⟩ := split_none h
  rw [denotes, htake, hdrop]
  simp [exponentOf]

theorem denotes_exponent {cs : List Char} (h : ∀ c ∈ cs, c ≠ 'e') (power : List Char) :
    denotes (cs ++ 'e' :: power) = mantissaOf cs * 10 ^ exponentOf power := by
  obtain ⟨htake, hdrop⟩ := split_at h power
  rw [denotes, htake, hdrop]

/-! ### The two notations -/

theorem isDigit_zeros {n : Nat} {c : Char} (h : c ∈ zeros n) : c.isDigit = true := by
  rw [(List.mem_replicate.mp h).2]
  decide

theorem isDigit_zeros_append {n : Nat} {ds : List Char} (h : ∀ c ∈ ds, c.isDigit = true) :
    ∀ c ∈ zeros n ++ ds, c.isDigit = true := by
  intro c hc
  rcases List.mem_append.mp hc with hc | hc
  · exact isDigit_zeros hc
  · exact h c hc

theorem ofDigitChars_zeros (n : Nat) (ds : List Char) :
    Nat.ofDigitChars 10 (zeros n ++ ds) 0 = Nat.ofDigitChars 10 ds 0 := by
  rw [zeros, Nat.ofDigitChars_append, Nat.ofDigitChars_replicate_zero, Nat.mul_zero]

/-- A digit or the point. -/
def InMantissa (c : Char) : Prop :=
  c.isDigit = true ∨ c = '.'

theorem InMantissa.isNumeric {c : Char} (h : InMantissa c) : isNumeric c = true := by
  rcases h with h | rfl
  · exact isNumeric_of_isDigit h
  · decide

theorem InMantissa.ne_mark {c : Char} (h : InMantissa c) : c ≠ 'e' := by
  rcases h with h | rfl
  · exact ne_of_isDigit h (by decide)
  · decide

theorem inMantissa_point {whole fraction : List Char}
    (h : ∀ c ∈ whole ++ fraction, c.isDigit = true) :
    ∀ c ∈ whole ++ '.' :: fraction, InMantissa c := by
  intro c hc
  rcases List.mem_append.mp hc with hc | hc
  · exact .inl (h c (List.mem_append_left _ hc))
  rcases List.mem_cons.mp hc with rfl | hc
  · exact .inr rfl
  · exact .inl (h c (List.mem_append_right _ hc))

/-- The place of the last digit of `d₁.d₂… * 10 ^ exponent`, as a power of ten. -/
def lastPlace (digits : List Char) (exponent : Int) : Int :=
  exponent - (digits.length - 1 : Nat)

/-- Positional notation of `d₁.d₂… * 10 ^ exponent`, by what stands on each side of the
point. One digit at least stands behind it, so the last place is that of the last of
`digits`, or else the first place behind the point. -/
structure Pointed (digits : List Char) (exponent : Int) (whole fraction : List Char) : Prop where
  text : positional digits exponent = whole ++ '.' :: fraction
  whole_ne_nil : whole ≠ []
  fraction_ne_nil : fraction ≠ []
  isDigit : ∀ c ∈ whole ++ fraction, c.isDigit = true
  head : whole = ['0'] ∨ whole.head? = digits.head? ∧ whole.length = exponent.toNat + 1
  place : -(fraction.length : Int) = min (lastPlace digits exponent) (-1)
  value : Nat.ofDigitChars 10 (whole ++ fraction) 0 = Nat.ofDigitChars 10 digits 0 *
    10 ^ (lastPlace digits exponent - min (lastPlace digits exponent) (-1)).toNat

section

variable {digits : List Char} (hd : ∀ c ∈ digits, c.isDigit = true) (hne : digits ≠ [])

include hd hne

/-- All digits stand behind the point, after zeros. -/
theorem pointed_of_neg {exponent : Int} (hneg : exponent < 0) :
    Pointed digits exponent ['0'] (zeros (-exponent - 1).toNat ++ digits) where
  text := by rw [positional, if_pos hneg]; rfl
  whole_ne_nil := by simp
  fraction_ne_nil := by simp [hne]
  isDigit := List.forall_mem_append.mpr
    ⟨isDigit_singleton (by decide), isDigit_zeros_append hd⟩
  head := .inl rfl
  place := by
    have hlen := List.length_pos_iff.mpr hne
    rw [List.length_append, zeros, List.length_replicate, lastPlace]
    omega
  value := by
    have hplace : lastPlace digits exponent - min (lastPlace digits exponent) (-1) = 0 := by
      rw [lastPlace]
      omega
    rw [hplace, List.singleton_append, Nat.ofDigitChars_cons]
    show Nat.ofDigitChars 10 (zeros _ ++ digits) 0 = _
    rw [ofDigitChars_zeros, Int.toNat_zero, Nat.pow_zero, Nat.mul_one]

/-- All digits stand before the point, with zeros up to it and one behind. -/
theorem pointed_of_le {exponent : Int} (hneg : ¬exponent < 0)
    (hle : digits.length ≤ exponent.toNat + 1) :
    Pointed digits exponent (digits ++ zeros (exponent.toNat + 1 - digits.length)) ['0'] where
  text := by simp only [positional, if_neg hneg, if_pos hle]
  whole_ne_nil := by simp [hne]
  fraction_ne_nil := by simp
  isDigit := List.forall_mem_append.mpr
    ⟨List.forall_mem_append.mpr ⟨hd, fun c => isDigit_zeros⟩, isDigit_singleton (by decide)⟩
  head := by
    refine .inr ⟨List.head?_append_of_ne_nil _ hne, ?_⟩
    rw [List.length_append, zeros, List.length_replicate]
    omega
  place := by
    have hlen := List.length_pos_iff.mpr hne
    rw [List.length_singleton, lastPlace]
    omega
  value := by
    have hlen := List.length_pos_iff.mpr hne
    have hplace : (lastPlace digits exponent - min (lastPlace digits exponent) (-1)).toNat =
        exponent.toNat + 1 - digits.length + 1 := by
      rw [lastPlace]
      omega
    rw [hplace, Nat.ofDigitChars_append, Nat.ofDigitChars_append, zeros,
      Nat.ofDigitChars_replicate_zero, Nat.ofDigitChars_cons, Nat.ofDigitChars_nil]
    show 10 * _ + 0 = _
    ring

omit hne in
/-- The point stands between two of the digits. -/
theorem pointed_of_lt {exponent : Int} (hneg : ¬exponent < 0)
    (hlt : ¬digits.length ≤ exponent.toNat + 1) :
    Pointed digits exponent (digits.take (exponent.toNat + 1))
      (digits.drop (exponent.toNat + 1)) where
  text := by simp only [positional, if_neg hneg, if_neg hlt]
  whole_ne_nil := by
    rw [← List.length_pos_iff, List.length_take]
    omega
  fraction_ne_nil := by
    rw [← List.length_pos_iff, List.length_drop]
    omega
  isDigit := by rwa [List.take_append_drop]
  head := by
    refine .inr ⟨by rw [List.head?_take, if_neg (Nat.succ_ne_zero _)], ?_⟩
    rw [List.length_take]
    omega
  place := by
    rw [List.length_drop, lastPlace]
    omega
  value := by
    have hplace : lastPlace digits exponent - min (lastPlace digits exponent) (-1) = 0 := by
      rw [lastPlace]
      omega
    rw [hplace, List.take_append_drop, Int.toNat_zero, Nat.pow_zero, Nat.mul_one]

theorem exists_pointed (exponent : Int) :
    ∃ whole fraction, Pointed digits exponent whole fraction := by
  by_cases hneg : exponent < 0
  · exact ⟨_, _, pointed_of_neg hd hne hneg⟩
  by_cases hle : digits.length ≤ exponent.toNat + 1
  · exact ⟨_, _, pointed_of_le hd hne hneg hle⟩
  · exact ⟨_, _, pointed_of_lt hd hneg hle⟩

theorem denotes_positional (exponent : Int) :
    denotes (positional digits exponent) =
      Nat.ofDigitChars 10 digits 0 * 10 ^ lastPlace digits exponent := by
  obtain ⟨whole, fraction, h⟩ := exists_pointed hd hne exponent
  have hwhole : ∀ c ∈ whole, c.isDigit = true := (List.forall_mem_append.mp h.isDigit).1
  rw [h.text, denotes_plain fun c hc => (inMantissa_point h.isDigit c hc).ne_mark,
    mantissaOf_point hwhole, h.value, div_eq_iff (by positivity)]
  push_cast
  rw [mul_assoc, ← zpow_natCast, ← zpow_natCast, ← zpow_add₀ (by norm_num)]
  have hplace := h.place
  congr 2
  omega

theorem fractional_positional (exponent : Int) : Fractional (positional digits exponent) := by
  obtain ⟨whole, fraction, h⟩ := exists_pointed hd hne exponent
  obtain ⟨d, ds, rfl⟩ := List.exists_cons_of_ne_nil h.whole_ne_nil
  rw [h.text]
  exact ⟨fun c hc => (inMantissa_point h.isDigit c hc).isNumeric,
    ⟨d, _, rfl, h.isDigit d (List.mem_cons_self ..)⟩, .inl (by simp)⟩

end

/-- The digits behind the first one in scientific notation: with a point in front, if there
are any. -/
def behindFirst : List Char → List Char
  | [] => []
  | d :: ds => '.' :: d :: ds

/-- The sign of an exponent. -/
def exponentSign (exponent : Int) : Char :=
  if exponent < 0 then '-' else '+'

/-- The digits of an exponent, `width` at least. -/
def exponentDigits (width : Nat) (exponent : Int) : List Char :=
  zeros (width - (Nat.toDigits 10 exponent.natAbs).length) ++ Nat.toDigits 10 exponent.natAbs

theorem scientific_cons (width : Nat) (d : Char) (ds : List Char) (exponent : Int) :
    scientific width (d :: ds) exponent =
      d :: behindFirst ds ++ 'e' :: exponentSign exponent :: exponentDigits width exponent := by
  cases ds <;> simp [scientific, behindFirst, exponentSign, exponentDigits]

theorem isDigit_exponentDigits (width : Nat) (exponent : Int) :
    ∀ c ∈ exponentDigits width exponent, c.isDigit = true :=
  isDigit_zeros_append fun _ => Text.isDigit_toDigits

theorem le_length_exponentDigits (width : Nat) (exponent : Int) :
    width ≤ (exponentDigits width exponent).length := by
  rw [exponentDigits, List.length_append, zeros, List.length_replicate]
  omega

theorem ofDigitChars_exponentDigits (width : Nat) (exponent : Int) :
    Nat.ofDigitChars 10 (exponentDigits width exponent) 0 = exponent.natAbs := by
  rw [exponentDigits, ofDigitChars_zeros, Nat.ofDigitChars_ten_toDigits]

theorem exponentOf_signed (width : Nat) (exponent : Int) :
    exponentOf (exponentSign exponent :: exponentDigits width exponent) = exponent := by
  rw [exponentSign]
  split
  · rw [exponentOf, ofDigitChars_exponentDigits]
    omega
  · rw [exponentOf, ofDigitChars_exponentDigits]
    omega

theorem isNumeric_exponentSign (exponent : Int) : isNumeric (exponentSign exponent) = true := by
  rw [exponentSign]
  split <;> decide

section

variable {d : Char} {ds : List Char} (hd : ∀ c ∈ d :: ds, c.isDigit = true)

include hd

theorem inMantissa_behindFirst : ∀ c ∈ d :: behindFirst ds, InMantissa c := by
  cases ds with
  | nil => exact fun c hc => .inl (hd c hc)
  | cons d' ds =>
    have h : ∀ c ∈ [d] ++ '.' :: d' :: ds, InMantissa c := inMantissa_point hd
    exact h

theorem mantissaOf_behindFirst :
    mantissaOf (d :: behindFirst ds) = Nat.ofDigitChars 10 (d :: ds) 0 / 10 ^ ds.length := by
  cases ds with
  | nil =>
    rw [behindFirst, mantissaOf_whole hd]
    simp
  | cons d' ds =>
    exact mantissaOf_point (isDigit_singleton (hd d (List.mem_cons_self ..))) (d' :: ds)

theorem denotes_scientific (width : Nat) (exponent : Int) :
    denotes (scientific width (d :: ds) exponent) =
      Nat.ofDigitChars 10 (d :: ds) 0 * 10 ^ lastPlace (d :: ds) exponent := by
  rw [scientific_cons, denotes_exponent fun c hc => (inMantissa_behindFirst hd c hc).ne_mark,
    mantissaOf_behindFirst hd, exponentOf_signed, lastPlace, zpow_sub₀ (by norm_num), zpow_natCast,
    List.length_cons, Nat.add_sub_cancel]
  ring

theorem fractional_scientific (width : Nat) (exponent : Int) :
    Fractional (scientific width (d :: ds) exponent) := by
  rw [scientific_cons]
  refine ⟨fun c hc => ?_, ⟨d, _, rfl, hd d (List.mem_cons_self ..)⟩, .inr (by simp)⟩
  rcases List.mem_append.mp hc with hc | hc
  · exact (inMantissa_behindFirst hd c hc).isNumeric
  rcases List.mem_cons.mp hc with rfl | hc
  · decide
  rcases List.mem_cons.mp hc with rfl | hc
  · exact isNumeric_exponentSign exponent
  · exact isNumeric_of_isDigit (isDigit_exponentDigits width exponent c hc)

end

theorem fractional_writeScaled (l : Layout) (d : Scaled) : Fractional (l.writeScaled d) := by
  have hd : ∀ c ∈ Nat.toDigits 10 d.digits, c.isDigit = true := fun c => Text.isDigit_toDigits
  simp only [Layout.writeScaled]
  split
  · exact fractional_positional hd Nat.toDigits_ne_nil _
  · obtain ⟨c, cs, hcs⟩ := List.exists_cons_of_ne_nil (Nat.toDigits_ne_nil (n := d.digits))
    rw [hcs] at hd ⊢
    exact fractional_scientific hd _ _

/-- Whatever the layout, the text of a decimal denotes it. -/
theorem denotes_writeScaled (l : Layout) (d : Scaled) :
    denotes (l.writeScaled d) = d.digits * 10 ^ d.power := by
  have hd : ∀ c ∈ Nat.toDigits 10 d.digits, c.isDigit = true := fun c => Text.isDigit_toDigits
  have hplace : lastPlace (Nat.toDigits 10 d.digits)
      (d.power + ((Nat.toDigits 10 d.digits).length - 1 : Nat)) = d.power := by
    rw [lastPlace]
    omega
  simp only [Layout.writeScaled]
  split
  · rw [denotes_positional hd Nat.toDigits_ne_nil, Nat.ofDigitChars_ten_toDigits, hplace]
  · obtain ⟨c, cs, hcs⟩ := List.exists_cons_of_ne_nil (Nat.toDigits_ne_nil (n := d.digits))
    have hvalue := Nat.ofDigitChars_ten_toDigits (n := d.digits)
    rw [hcs] at hd hplace hvalue ⊢
    rw [denotes_scientific hd, hvalue, hplace]

/-! ### Numbers -/

/-- The text of a finite number without its sign. -/
def Layout.body (l : Layout) (x : Binary64) : List Char :=
  if x.isZero then ['0', '.', '0'] else l.writeScaled (shortest l.tie x)

/-- The sign of a number as it is written. -/
def signOf (x : Binary64) : List Char :=
  if x.negative then ['-'] else []

variable {l : Layout} {x y : Binary64}

theorem write_finite (hx : x.isFinite = true) :
    (l.write x).toList = signOf x ++ l.body x := by
  simp only [Layout.write, Layout.body, signOf, hx, if_true]
  split <;> simp

theorem fractional_body (l : Layout) (x : Binary64) : Fractional (l.body x) := by
  rw [Layout.body]
  split
  · exact ⟨by simp [isNumeric], ⟨'0', ['.', '0'], rfl, by decide⟩, .inl (by simp)⟩
  · exact fractional_writeScaled l _

/-- What is written for a finite number denotes a real that rounds to the number. -/
theorem body_contains (l : Layout) (x : Binary64) :
    (Span.ofNumber x).Contains (denotes (l.body x) * Span.quartersPerOne) := by
  rw [Layout.body]
  cases hz : x.isZero with
  | false =>
    rw [if_neg (by simp), denotes_writeScaled]
    exact shortest_contains hz l.tie
  | true =>
    have hzero : x.magnitude = 0 := by simpa [Binary64.isZero] using hz
    have hclosed : (Span.ofWord 0).closed = true := Span.closed_ofWord.mpr rfl
    have hdenotes : denotes ['0', '.', '0'] = 0 := by
      have hp := mantissaOf_point (isDigit_singleton (d := '0') (by decide)) ['0']
      rw [denotes_plain (by simp)]
      exact hp.trans (by norm_num [Nat.ofDigitChars])
    rw [if_pos rfl, hdenotes, zero_mul, Span.ofNumber_eq, hzero, Span.Contains, if_pos hclosed]
    exact ⟨Nat.cast_zero.le, Nat.cast_nonneg _⟩

/-- Two finite numbers that are written alike are the same, sign and all. -/
theorem write_injective (hx : x.isFinite = true) (hy : y.isFinite = true)
    (h : l.write x = l.write y) : x = y := by
  obtain ⟨c, cs, hc, hcd⟩ := (fractional_body l x).head
  obtain ⟨d, ds, hd, hdd⟩ := (fractional_body l y).head
  have hminus : '-'.isDigit = false := by decide
  have htext : signOf x ++ l.body x = signOf y ++ l.body y := by
    rw [← write_finite hx, ← write_finite hy, h]
  have hparts : x.negative = y.negative ∧ l.body x = l.body y := by
    rw [signOf, signOf] at htext
    cases hnx : x.negative <;> cases hny : y.negative <;> simp [hnx, hny] at htext ⊢
    · exact htext
    · rw [hc] at htext
      exact ne_of_isDigit hcd hminus (List.cons.inj htext).1
    · rw [hd] at htext
      exact ne_of_isDigit hdd hminus (List.cons.inj htext).1.symm
    · exact htext
  have hcx : (Span.ofWord x.magnitude).Contains _ := body_contains l x
  rw [hparts.2] at hcx
  exact eq_of_magnitude hparts.1 (Span.word_unique hcx (body_contains l y))

end PipelineWatch.Decimal
