import PipelineWatch.Proofs.Json.Spelling

/-!
Reading a number. The reader takes the longest run of digits wherever one may stand, so
it is told what every text of a number gives once nothing behind it could continue the
number; and whatever it takes is such a text.
-/
namespace PipelineWatch.Json

/-! ### Runs of digits -/

/-- What stands behind a number: nothing, or a byte that continues none. -/
def EndsNumber (rest : Bytes) : Prop :=
  ∀ b ∈ rest.head?, (Byte.digit? b).isSome = false ∧ b ≠ Byte.point ∧
    Byte.isExponentMark b = false

theorem EndsNumber.startsDigit {rest : Bytes} (h : EndsNumber rest) :
    startsDigit rest = false := by
  cases rest with
  | nil => rfl
  | cons b rest => exact (h b rfl).1

theorem Digits.startsDigit {ds : Bytes} (h : Digits ds) (rest : Bytes) :
    startsDigit (ds ++ rest) = true := by
  cases ds with
  | nil => exact absurd rfl h.ne_nil
  | cons b ds => exact h.digit b (List.mem_cons_self ..)

/-- The digits that a text starts with, and what follows them. -/
theorem exists_digits (input : Bytes) :
    ∃ ds rest, input = ds ++ rest ∧ (∀ b ∈ ds, (Byte.digit? b).isSome = true) ∧
      startsDigit rest = false := by
  refine ⟨input.takeWhile fun b => (Byte.digit? b).isSome,
    input.dropWhile fun b => (Byte.digit? b).isSome, List.takeWhile_append_dropWhile.symm,
    List.all_eq_true.mp List.all_takeWhile, ?_⟩
  cases hd : input.dropWhile fun b => (Byte.digit? b).isSome with
  | nil => rfl
  | cons b rest =>
    have h := List.head?_dropWhile_not (fun b => (Byte.digit? b).isSome) input
    rw [hd] at h
    simpa [startsDigit] using h

theorem exists_digits_of_startsDigit {input : Bytes} (h : startsDigit input = true) :
    ∃ ds rest, input = ds ++ rest ∧ Digits ds ∧ startsDigit rest = false := by
  obtain ⟨ds, rest, rfl, hds, hrest⟩ := exists_digits input
  refine ⟨ds, rest, rfl, ⟨hds, ?_⟩, hrest⟩
  rintro rfl
  simp [hrest] at h

/-- Behind the digits of a run, growing stops as it does at the end of a text. -/
theorem growDigits_append (limit value count : Nat) (ds : Bytes) {rest : Bytes}
    (hrest : startsDigit rest = false) :
    growDigits limit value count (ds ++ rest) =
      ((growDigits limit value count ds).1, (growDigits limit value count ds).2.1,
        (growDigits limit value count ds).2.2 ++ rest) := by
  induction ds generalizing value count with
  | nil =>
    cases rest with
    | nil => rfl
    | cons b rest =>
      have hb : Byte.digit? b = none := by simpa [startsDigit] using hrest
      simp [growDigits, hb]
  | cons b ds ih =>
    simp only [List.cons_append, growDigits]
    split
    · split
      · exact ih ..
      · rfl
    · rfl

/-- What growing leaves of a run of digits. -/
theorem growDigits_suffix (limit value count : Nat) (ds : Bytes) :
    (growDigits limit value count ds).2.2 <:+ ds := by
  induction ds generalizing value count with
  | nil => exact List.suffix_refl _
  | cons b ds ih =>
    simp only [growDigits]
    split
    · split
      · exact (ih ..).trans (List.suffix_cons ..)
      · exact List.suffix_refl _
    · exact List.suffix_refl _

theorem growDigits_left_digit (limit value count : Nat) {ds : Bytes}
    (h : ∀ b ∈ ds, (Byte.digit? b).isSome = true) :
    ∀ b ∈ (growDigits limit value count ds).2.2, (Byte.digit? b).isSome = true :=
  fun b hb => h b ((growDigits_suffix limit value count ds).subset hb)

theorem skipDigits_append (count : Nat) {ds rest : Bytes}
    (h : ∀ b ∈ ds, (Byte.digit? b).isSome = true) (hrest : startsDigit rest = false) :
    skipDigits count (ds ++ rest) = (count + ds.length, rest) := by
  induction ds generalizing count with
  | nil =>
    cases rest with
    | nil => rfl
    | cons b rest => simp [skipDigits, show (Byte.digit? b).isSome = false from hrest]
  | cons b ds ih =>
    have hb := h b (List.mem_cons_self ..)
    simp only [List.cons_append, skipDigits, hb, if_pos]
    rw [ih _ fun d hd => h d (List.mem_cons_of_mem _ hd), List.length_cons, Nat.add_assoc,
      Nat.add_comm 1]

theorem digit?_lt {b : UInt8} {d : Nat} (h : Byte.digit? b = some d) : d < 10 := by
  simp only [Byte.digit?, Bool.and_eq_true, decide_eq_true_eq, UInt8.le_iff_toNat_le,
    UInt8.reduceToNat] at h
  split at h
  · cases h
    omega
  · cases h

/-- One digit fits at least, where a single digit does. -/
theorem growDigits_count_pos {limit : Nat} (hlimit : 10 ≤ limit) {ds : Bytes} (h : Digits ds)
    (rest : Bytes) : (growDigits limit 0 0 (ds ++ rest)).2.1 ≠ 0 := by
  have grows : ∀ (ds : Bytes) value count, count ≤ (growDigits limit value count ds).2.1 := by
    intro ds
    induction ds with
    | nil => exact fun _ _ => Nat.le_refl _
    | cons b ds ih =>
      intro value count
      simp only [growDigits]
      split
      · split
        · exact Nat.le_of_succ_le (ih ..)
        · exact Nat.le_refl _
      · exact Nat.le_refl _
  cases ds with
  | nil => exact absurd rfl h.ne_nil
  | cons b ds =>
    obtain ⟨d, hd⟩ := Option.isSome_iff_exists.mp (h.digit b (List.mem_cons_self ..))
    have hlt := digit?_lt hd
    have hpos := grows (ds ++ rest) (0 * 10 + d) (0 + 1)
    simp only [List.cons_append, growDigits, hd]
    rw [if_pos (by omega)]
    omega

/-! ### The stages -/

theorem scaledBy?_none (negative : Bool) (significand : Nat) (scale : Int) :
    scaledBy? negative significand scale none =
      (scaled? significand scale).map (signed negative) := rfl

theorem finishNumber_eq_ok_iff {negative : Bool} {significand : Nat} {scale : Int}
    {rest rest' : Bytes} {v : Json} :
    finishNumber negative significand scale rest = .ok (v, rest') ↔
      scaledBy? negative significand scale none = some v ∧ rest' = rest := by
  rw [scaledBy?_none, finishNumber]
  cases scaled? significand scale with
  | none => simp
  | some x => simp [eq_comm]

/-- A sign is taken only where one stands. -/
theorem takeSign_digits {ds : Bytes} (h : Digits ds) (rest : Bytes) :
    takeSign (ds ++ rest) = (false, ds ++ rest) := by
  cases ds with
  | nil => exact absurd rfl h.ne_nil
  | cons b ds =>
    have hb := h.digit b (List.mem_cons_self ..)
    have hp : b ≠ Byte.plus := by
      rintro rfl
      exact absurd hb (by decide)
    have hm : b ≠ Byte.minus := by
      rintro rfl
      exact absurd hb (by decide)
    simp [takeSign, hp, hm]

/-- What an exponent gives from behind its sign. -/
theorem readExponent_of_takeSign {negative down : Bool} {significand : Nat} {scale : Int}
    {input ds rest : Bytes} (hs : takeSign input = (down, ds ++ rest)) (hd : Digits ds)
    (hrest : startsDigit rest = false) {v : Json} {rest' : Bytes} :
    readExponent negative significand scale input = .ok (v, rest') ↔
      scaledBy? negative significand scale (some (down, ds)) = some v ∧ rest' = rest := by
  have hcount := growDigits_count_pos (show 10 ≤ exponentLimit by decide) hd rest
  have hleft := growDigits_left_digit exponentLimit 0 0 hd.digit
  simp only [readExponent, hs]
  rw [growDigits_append exponentLimit 0 0 ds hrest] at hcount ⊢
  simp only [scaledBy?]
  generalize growDigits exponentLimit 0 0 ds = grown at *
  obtain ⟨power, count, left⟩ := grown
  simp only at hcount hleft ⊢
  rw [if_neg hcount]
  cases left with
  | nil =>
    rw [List.nil_append, if_neg (by simp [hrest]), finishNumber_eq_ok_iff]
    rfl
  | cons b left =>
    have hb : startsDigit (b :: left ++ rest) = true := hleft b (List.mem_cons_self ..)
    rw [if_pos hb, skipDigits_append 0 hleft hrest]
    cases down with
    | true => simp [eq_comm]
    | false =>
      by_cases hz : significand = 0
      · simp [hz, eq_comm]
      · simp [hz]

theorem isExponentMark_not_digit {b : UInt8} (h : Byte.isExponentMark b = true) :
    Byte.digit? b = none := by
  simp only [Byte.isExponentMark, Bool.or_eq_true, beq_iff_eq] at h
  rcases h with rfl | rfl <;> rfl

theorem SpellsExponent.cons {e : Bool × Bytes} {bs : Bytes} (h : SpellsExponent (some e) bs) :
    ∃ mark more, bs = mark :: more ∧ Byte.isExponentMark mark = true := by
  cases h with
  | bare hm | plus hm | minus hm => exact ⟨_, _, rfl, hm⟩

theorem readExponent_spelled {negative : Bool} {significand : Nat} {scale : Int}
    {e : Bool × Bytes} {mark : UInt8} {bs rest rest' : Bytes} {v : Json}
    (h : SpellsExponent (some e) (mark :: bs)) (hrest : startsDigit rest = false) :
    readExponent negative significand scale (bs ++ rest) = .ok (v, rest') ↔
      scaledBy? negative significand scale (some e) = some v ∧ rest' = rest := by
  cases h with
  | bare _ hd => exact readExponent_of_takeSign (takeSign_digits hd rest) hd hrest
  | plus _ hd => exact readExponent_of_takeSign rfl hd hrest
  | minus _ hd => exact readExponent_of_takeSign rfl hd hrest

/-- Nothing is read as an exponent but one that is spelled there. -/
theorem exists_spellsExponent {negative : Bool} {significand : Nat} {scale : Int}
    {input : Bytes} {r : Json × Bytes} {mark : UInt8} (hm : Byte.isExponentMark mark = true)
    (h : readExponent negative significand scale input = .ok r) :
    ∃ e bs rest, input = bs ++ rest ∧ SpellsExponent (some e) (mark :: bs) ∧
      startsDigit rest = false := by
  have hstart : startsDigit (takeSign input).2 = true := by
    rw [readExponent] at h
    rcases hs : takeSign input with ⟨down, rest⟩
    simp only [hs] at h
    cases hd : startsDigit rest with
    | true => rfl
    | false =>
      have hg := growDigits_append exponentLimit 0 0 [] hd
      rw [List.nil_append] at hg
      rw [hg] at h
      simp only [growDigits, List.nil_append, if_pos] at h
      split at h <;> cases h
  obtain ⟨ds, rest, hds, hd, hrest⟩ := exists_digits_of_startsDigit hstart
  cases input with
  | nil => cases hstart
  | cons b input =>
    simp only [takeSign] at hds
    split at hds
    · next hb =>
      subst hb
      exact ⟨_, Byte.plus :: ds, rest, congrArg (Byte.plus :: ·) hds, .plus hm hd, hrest⟩
    split at hds
    · next hb =>
      subst hb
      exact ⟨_, Byte.minus :: ds, rest, congrArg (Byte.minus :: ·) hds, .minus hm hd, hrest⟩
    · exact ⟨_, ds, rest, hds, .bare hm hd, hrest⟩

theorem SpellsExponent.startsDigit {e : Option (Bool × Bytes)} {bs rest : Bytes}
    (h : SpellsExponent e bs) (hrest : startsDigit rest = false) :
    startsDigit (bs ++ rest) = false := by
  cases h with
  | none => exact hrest
  | bare hm | plus hm | minus hm => simp [Json.startsDigit, isExponentMark_not_digit hm]

theorem SpellsFraction.startsDigit {f : Option Bytes} {bs rest : Bytes}
    (h : SpellsFraction f bs) (hrest : startsDigit rest = false) :
    startsDigit (bs ++ rest) = false := by
  cases h with
  | none => exact hrest
  | some _ => rfl

theorem readScale_spelled {negative : Bool} {significand : Nat} {scale : Int}
    {e : Option (Bool × Bytes)} {bs rest : Bytes} {v : Json} (h : SpellsExponent e bs)
    (hv : scaledBy? negative significand scale e = some v) (hrest : EndsNumber rest) :
    readScale negative significand scale (bs ++ rest) = .ok (v, rest) := by
  cases e with
  | none =>
    cases h
    have hend := finishNumber_eq_ok_iff.mpr ⟨hv, rfl (a := rest)⟩
    cases rest with
    | nil => exact hend
    | cons b rest =>
      have hb := (hrest b rfl).2.2
      simpa [readScale, hb] using hend
  | some e =>
    obtain ⟨mark, bs, rfl, hm⟩ := h.cons
    simp only [List.cons_append, readScale, if_pos hm]
    exact (readExponent_spelled h hrest.startsDigit).mpr ⟨hv, rfl⟩

theorem exists_spelled_of_readScale {negative : Bool} {significand : Nat} {scale : Int}
    {input rest : Bytes} {v : Json}
    (h : readScale negative significand scale input = .ok (v, rest)) :
    ∃ e bs, input = bs ++ rest ∧ SpellsExponent e bs ∧
      scaledBy? negative significand scale e = some v := by
  cases input with
  | nil =>
    obtain ⟨hv, rfl⟩ := finishNumber_eq_ok_iff.mp h
    exact ⟨none, [], rfl, .none, hv⟩
  | cons b input =>
    simp only [readScale] at h
    split at h
    · next hm =>
      obtain ⟨e, bs, rest', rfl, hs, hrest⟩ := exists_spellsExponent hm h
      obtain ⟨hv, rfl⟩ := (readExponent_spelled hs hrest).mp h
      exact ⟨some e, b :: bs, rfl, hs, hv⟩
    · obtain ⟨hv, rfl⟩ := finishNumber_eq_ok_iff.mp h
      exact ⟨none, [], rfl, .none, hv⟩

/-! ### Fractions -/

/-- The fraction takes a whole run of digits, those that are dropped included. -/
theorem readFraction_digits {negative : Bool} {significand : Nat} {scale : Int}
    {ds rest : Bytes} (hd : Digits ds) (hrest : startsDigit rest = false) :
    readFraction negative significand scale (ds ++ rest) =
      readScale negative (growDigits Text.wordSize significand 0 ds).1
        (scale - (growDigits Text.wordSize significand 0 ds).2.1) rest := by
  have hleft := growDigits_left_digit Text.wordSize significand 0 hd.digit
  simp only [readFraction, if_pos (hd.startsDigit rest), growDigits_append _ _ _ ds hrest,
    skipDigits_append 0 hleft hrest]

theorem startsDigit_of_readFraction {negative : Bool} {significand : Nat} {scale : Int}
    {input : Bytes} {r : Json × Bytes}
    (h : readFraction negative significand scale input = .ok r) : startsDigit input = true := by
  cases hs : startsDigit input with
  | true => rfl
  | false =>
    simp only [readFraction, hs, Bool.false_eq_true, if_false] at h
    cases input <;> cases h

/-! ### Numbers -/

theorem finishWhole_eq_ok_iff {negative : Bool} {significand beyond : Nat} {rest rest' : Bytes}
    {v : Json} :
    finishWhole negative significand beyond rest = .ok (v, rest') ↔
      numberBy? negative significand beyond none none = some v ∧ rest' = rest := by
  rw [finishWhole]
  simp only [numberBy?]
  split
  · simp [eq_comm]
  · exact finishNumber_eq_ok_iff

theorem readAfterWhole_spelled {negative : Bool} {significand beyond : Nat}
    {f : Option Bytes} {e : Option (Bool × Bytes)} {fs es rest : Bytes} {v : Json}
    (hf : SpellsFraction f fs) (he : SpellsExponent e es)
    (hv : numberBy? negative significand beyond f e = some v) (hrest : EndsNumber rest) :
    readAfterWhole negative significand beyond (fs ++ es ++ rest) = .ok (v, rest) := by
  cases hf with
  | some hd =>
    simp only [List.cons_append, readAfterWhole, if_pos, List.append_assoc]
    rw [readFraction_digits hd (he.startsDigit hrest.startsDigit)]
    exact readScale_spelled he hv hrest
  | none =>
    rw [List.nil_append]
    cases e with
    | none =>
      cases he
      have hend := finishWhole_eq_ok_iff.mpr ⟨hv, rfl (a := rest)⟩
      cases rest with
      | nil => exact hend
      | cons b rest =>
        obtain ⟨-, hp, hm⟩ := hrest b rfl
        simpa [readAfterWhole, hp, hm] using hend
    | some e =>
      obtain ⟨mark, bs, rfl, hm⟩ := he.cons
      have hp : mark ≠ Byte.point := by
        rintro rfl
        exact absurd hm (by decide)
      simp only [List.cons_append, readAfterWhole, if_neg hp, if_pos hm]
      exact (readExponent_spelled he hrest.startsDigit).mpr ⟨hv, rfl⟩

theorem exists_spelled_of_readAfterWhole {negative : Bool} {significand beyond : Nat}
    {input rest : Bytes} {v : Json}
    (h : readAfterWhole negative significand beyond input = .ok (v, rest)) :
    ∃ f e fs es, input = fs ++ es ++ rest ∧ SpellsFraction f fs ∧ SpellsExponent e es ∧
      numberBy? negative significand beyond f e = some v := by
  cases input with
  | nil =>
    obtain ⟨hv, rfl⟩ := finishWhole_eq_ok_iff.mp h
    exact ⟨none, none, [], [], rfl, .none, .none, hv⟩
  | cons b input =>
    simp only [readAfterWhole] at h
    split at h
    · next hb =>
      subst hb
      obtain ⟨ds, tail, rfl, hd, htail⟩ :=
        exists_digits_of_startsDigit (startsDigit_of_readFraction h)
      rw [readFraction_digits hd htail] at h
      obtain ⟨e, es, rfl, he, hv⟩ := exists_spelled_of_readScale h
      exact ⟨some ds, e, _, es, by simp, .some hd, he, hv⟩
    split at h
    · next hm =>
      obtain ⟨e, es, rest', rfl, hs, hrest⟩ := exists_spellsExponent hm h
      obtain ⟨hv, rfl⟩ := (readExponent_spelled hs hrest).mp h
      exact ⟨none, some e, [], b :: es, rfl, .none, hs, hv⟩
    · obtain ⟨hv, rfl⟩ := finishWhole_eq_ok_iff.mp h
      exact ⟨none, none, [], [], rfl, .none, .none, hv⟩

/-- From its first digit on, a number is its whole part and what follows that. -/
theorem readDigits_whole {negative : Bool} {ds rest : Bytes} (h : SpellsWhole ds)
    (hrest : startsDigit rest = false) :
    readDigits negative (ds ++ rest) =
      readAfterWhole negative (growDigits Text.wordSize 0 0 ds).1
        (growDigits Text.wordSize 0 0 ds).2.2.length rest := by
  cases h with
  | zero =>
    simp only [List.cons_append, List.nil_append, readDigits, if_pos, hrest]
    rfl
  | @digits b bs hz hd =>
    have hb := hd.digit b (List.mem_cons_self ..)
    have hleft := growDigits_left_digit Text.wordSize 0 0 hd.digit
    have hg := growDigits_append Text.wordSize 0 0 (b :: bs) hrest
    rw [List.cons_append] at hg ⊢
    simp only [readDigits, if_neg hz, if_pos hb]
    rw [hg]
    simp only [skipDigits_append 0 hleft hrest, Nat.zero_add]

theorem exists_whole_of_readDigits {negative : Bool} {input : Bytes} {r : Json × Bytes}
    (h : readDigits negative input = .ok r) :
    ∃ ds rest, input = ds ++ rest ∧ SpellsWhole ds ∧ startsDigit rest = false := by
  cases input with
  | nil => cases h
  | cons b input =>
    simp only [readDigits] at h
    split at h
    · next hb =>
      subst hb
      split at h
      · cases h
      · next hs => exact ⟨[Byte.zero], input, rfl, .zero, by simpa using hs⟩
    · next hz =>
      split at h
      · next hb =>
        obtain ⟨ds, rest, hds, hd, hrest⟩ :=
          exists_digits_of_startsDigit (show startsDigit (b :: input) = true from hb)
        cases ds with
        | nil => exact absurd rfl hd.ne_nil
        | cons c ds =>
          obtain ⟨rfl, rfl⟩ := List.cons.inj hds
          exact ⟨_, rest, rfl, .digits hz hd, hrest⟩
      · cases h

/-- What a number starts with: a minus or a digit. -/
def startsNumber (b : UInt8) : Bool :=
  b == Byte.minus || (Byte.digit? b).isSome

theorem SpellsWhole.cons {ds : Bytes} (h : SpellsWhole ds) :
    ∃ b bs, ds = b :: bs ∧ (Byte.digit? b).isSome = true ∧ b ≠ Byte.minus := by
  cases h with
  | zero => exact ⟨_, _, rfl, rfl, by decide⟩
  | digits _ hd =>
    have hb := hd.digit _ (List.mem_cons_self ..)
    refine ⟨_, _, rfl, hb, ?_⟩
    rintro rfl
    exact absurd hb (by decide)

theorem SpellsNumeral.cons {n : Numeral} {bs : Bytes} (h : SpellsNumeral n bs) :
    ∃ b more, bs = b :: more ∧ startsNumber b = true := by
  obtain ⟨hw, -, -⟩ := h
  obtain ⟨b, more, hds, hb, -⟩ := hw.cons
  cases n.negative with
  | true => exact ⟨Byte.minus, _, rfl, rfl⟩
  | false => exact ⟨b, _, by rw [hds]; rfl, by simp [startsNumber, hb]⟩

/-- Every text of a number is read as its value. -/
theorem readNumber_spelled {n : Numeral} {bs rest : Bytes} {v : Json} (h : SpellsNumeral n bs)
    (hv : n.value? = some v) (hrest : EndsNumber rest) :
    readNumber (bs ++ rest) = .ok (v, rest) := by
  cases h with | @mk fs es hw hf he =>
  have hstart : startsDigit (fs ++ es ++ rest) = false := by
    rw [List.append_assoc]
    exact hf.startsDigit (he.startsDigit hrest.startsDigit)
  have key : readDigits n.negative (n.whole ++ (fs ++ es ++ rest)) = .ok (v, rest) := by
    rw [readDigits_whole hw hstart]
    exact readAfterWhole_spelled hf he hv hrest
  obtain ⟨b, ds, hds, -, hb⟩ := hw.cons
  cases hn : n.negative with
  | true =>
    simp only [hn] at key
    simp only [if_pos, List.cons_append, List.nil_append, readNumber, List.append_assoc]
    simpa using key
  | false =>
    simp only [hn, hds] at key
    simp only [Bool.false_eq_true, if_false, List.nil_append, List.append_assoc, hds,
      List.cons_append, readNumber, if_neg hb]
    simpa using key

/-- Whatever is read as a number is a text of it. -/
theorem exists_spelled_of_readNumber {input rest : Bytes} {v : Json}
    (h : readNumber input = .ok (v, rest)) :
    ∃ n bs, input = bs ++ rest ∧ SpellsNumeral n bs ∧ n.value? = some v := by
  have key : ∀ {negative input}, readDigits negative input = .ok (v, rest) →
      ∃ n bs, n.negative = negative ∧ input = bs ++ rest ∧ n.value? = some v ∧
        SpellsNumeral n ((if negative then [Byte.minus] else []) ++ bs) := by
    intro negative input h
    obtain ⟨ds, tail, rfl, hw, htail⟩ := exists_whole_of_readDigits h
    rw [readDigits_whole hw htail] at h
    obtain ⟨f, e, fs, es, rfl, hf, he, hv⟩ := exists_spelled_of_readAfterWhole h
    refine ⟨⟨negative, ds, f, e⟩, ds ++ fs ++ es, rfl, by simp, hv, ?_⟩
    have hs := SpellsNumeral.mk (n := ⟨negative, ds, f, e⟩) hw hf he
    simpa using hs
  cases input with
  | nil => cases h
  | cons b input =>
    simp only [readNumber] at h
    split at h
    · next hb =>
      obtain ⟨n, bs, -, rfl, hv, hs⟩ := key h
      exact ⟨n, Byte.minus :: bs, by rw [hb]; rfl, hs, hv⟩
    · obtain ⟨n, bs, -, hbs, hv, hs⟩ := key h
      exact ⟨n, bs, hbs, hs, hv⟩

end PipelineWatch.Json
