import PipelineWatch.Proofs.Decimal.Notation
import PipelineWatch.Proofs.Json.Writing

/-!
Fractions in the text of a document. The text of a finite number in the layout of the
producers denotes the shortest decimal that reads back as the number, and no reader takes it
for a whole number.
-/
namespace PipelineWatch.Json

open Decimal (Binary64 Layout Span significantDigits leadingExponent lastPlace denotes denotesSigned
  signOf Positional Scientific)
open Text.Utf8 (encode ofString)

/-! ### Texts of whole numbers -/

/-- No byte that a point or an exponent starts with. -/
def Plain (bs : Bytes) : Prop :=
  ∀ b ∈ bs, b ≠ Byte.point ∧ Byte.isExponentMark b = false

theorem Plain.append {as bs : Bytes} (ha : Plain as) (hb : Plain bs) : Plain (as ++ bs) :=
  List.forall_mem_append.mpr ⟨ha, hb⟩

theorem Blanks.plain {bs : Bytes} (h : Blanks bs) : Plain bs := by
  intro b hb
  have hblank := h b hb
  simp only [Byte.isBlank, Bool.or_eq_true, beq_iff_eq] at hblank
  rcases hblank with ((rfl | rfl) | rfl) | rfl <;> decide

theorem Digits.plain {bs : Bytes} (h : Digits bs) : Plain bs := by
  intro b hb
  have hdigit := h.digit b hb
  refine ⟨?_, ?_⟩
  · rintro rfl
    exact absurd hdigit (by decide)
  · cases hm : Byte.isExponentMark b with
    | false => rfl
    | true =>
      rw [isExponentMark_not_digit hm] at hdigit
      cases hdigit

theorem SpellsWhole.plain {bs : Bytes} (h : SpellsWhole bs) : Plain bs := by
  cases h with
  | zero => exact Digits.plain ⟨fun b hb => List.mem_singleton.mp hb ▸ rfl, by simp⟩
  | digits _ hd => exact hd.plain

/-- What has a point or an exponent is no whole number. -/
theorem Numeral.plain_of_integer {n : Numeral} {k : Int} (h : n.value? = some (.integer k)) :
    n.fraction = none ∧ n.exponent = none := by
  have fraction : ∀ {negative significand scale exponent},
      scaledBy? negative significand scale exponent ≠ some (.integer k) := by
    intro negative significand scale exponent h
    obtain ⟨x, hx⟩ := scaledBy?_signed h
    cases hx
  simp only [Numeral.value?, numberBy?] at h
  split at h
  · next hf he => exact ⟨hf, he⟩
  · exact absurd h fraction
  · exact absurd h fraction

theorem SpellsDocument.plain_of_integer {k : Int} {bs : Bytes}
    (h : SpellsDocument (.integer k) bs) : Plain bs := by
  obtain ⟨ha, hs, hz⟩ := h
  have hscalar : ∀ {depth bs}, Spells depth (.integer k) bs → SpellsScalar (.integer k) bs := by
    intro depth bs h
    cases depth with
    | zero => exact h
    | succ depth =>
      rcases h with h | ⟨⟨⟩⟩
      exact h
  cases hscalar hs with
  | number hn hv =>
    obtain ⟨hfraction, hexponent⟩ := Numeral.plain_of_integer hv
    obtain ⟨hw, hf, he⟩ := hn
    rw [hfraction] at hf
    rw [hexponent] at he
    cases hf
    cases he
    have hnil : Plain [] := by simp [Plain]
    have hsign : ∀ negative : Bool, Plain (if negative then [Byte.minus] else []) := by
      intro negative
      cases negative with
      | false => exact hnil
      | true =>
        intro b hb
        obtain rfl := List.mem_singleton.mp hb
        decide
    exact ha.plain.append (((((hsign _).append hw.plain).append hnil).append hnil).append hz.plain)

/-- A text with a point or an `e` holds no whole number. -/
theorem readTree_ne_integer {cs : List Char} (h : '.' ∈ cs ∨ 'e' ∈ cs) (k : Int) :
    readTree (encode cs) ≠ .ok (.integer k) := by
  intro hr
  have hplain := (readTree_eq_ok_iff.mp hr).plain_of_integer
  have mem : ∀ {c : Char} {b : UInt8}, c ∈ cs → String.utf8EncodeChar c = [b] → b ∈ encode cs := by
    intro c b hc hb
    exact List.mem_flatMap.mpr ⟨c, hc, hb ▸ List.mem_singleton.mpr rfl⟩
  rcases h with h | h
  · exact (hplain _ (mem (b := Byte.point) h (by decide))).1 rfl
  · exact absurd (hplain _ (mem (b := 0x65) h (by decide))).2 (by decide)

/-! ### The text of a finite number -/

/-- What the text of a finite number in the layout of the producers is worth. -/
structure WellWritten (x : Binary64) : Prop where
  /-- Its digits are one at least, -/
  digits : significantDigits x ≠ [] ∧ ∀ c ∈ significantDigits x, c.isDigit = true
  /-- the first is no zero but that of the number zero, -/
  first : (significantDigits x).head? = some '0' ↔ x.isZero = true
  /-- nor is the last one, unless it is the only one; -/
  last : (significantDigits x).getLast? = some '0' → (significantDigits x).length = 1
  /-- they round to the number, -/
  rounds : (Span.ofNumber x).Contains
    (denotes (Layout.producer.body x) * Span.quartersPerOne)
  /-- and no digits that do so end at an earlier place. -/
  shortest : x.isZero = false → ∀ (n : Nat) (power : Int), (Span.ofNumber x).HasPoint n power →
    power ≤ lastPlace (significantDigits x) (leadingExponent x)
  /-- The text is the sign and a text without sign, -/
  text : (Layout.producer.write x).toList = signOf x ++ Layout.producer.body x
  /-- and denotes the decimal of these digits. -/
  value : denotesSigned (Layout.producer.write x).toList =
    (if x.negative then -1 else 1) * (Nat.ofDigitChars 10 (significantDigits x) 0 /
      10 ^ ((significantDigits x).length - 1) * 10 ^ leadingExponent x)
  /-- The notation is a matter of the exponent, -/
  positional : Positional (Layout.producer.body x) ↔
    -4 ≤ leadingExponent x ∧ leadingExponent x < 16
  scientific : Scientific (Layout.producer.body x) ↔
    ¬ (-4 ≤ leadingExponent x ∧ leadingExponent x < 16)
  /-- and the point falls between two digits where there are digits on both sides of it. -/
  cut : ∀ n : Nat, leadingExponent x = n → n < 16 → n + 1 < (significantDigits x).length →
    ∃ whole fraction, significantDigits x = whole ++ fraction ∧ whole.length = n + 1 ∧
      fraction ≠ [] ∧ Layout.producer.body x = whole ++ '.' :: fraction
  /-- There is a point or an exponent, so no whole number is read from the text. -/
  marked : '.' ∈ Layout.producer.body x ∨ 'e' ∈ Layout.producer.body x
  fractional : ∀ k : Int, readTree (ofString (Layout.producer.write x)) ≠ .ok (.integer k)

/-- **The text of a finite number denotes its shortest decimal**, in the notation that its exponent
asks for, and is no whole number's. -/
theorem wellWritten_of_isFinite {x : Binary64} (hx : x.isFinite = true) : WellWritten x where
  digits := ⟨Decimal.significantDigits_ne_nil x, Decimal.isDigit_significantDigits x⟩
  first := Decimal.head?_significantDigits x
  last h := by
    rw [significantDigits, if_pos ((Decimal.getLast?_significantDigits x).mp h)]
    rfl
  rounds := Decimal.body_contains _ x
  shortest hz n power h := by
    rw [Decimal.lastPlace_significantDigits hz]
    exact Decimal.shortest_coarsest hz .up h
  text := Decimal.write_finite hx
  value := by rw [Decimal.denotesSigned_write hx, Decimal.denotes_body]
  positional := Decimal.positional_iff x
  scientific := Decimal.scientific_iff x
  cut n he hn hlen := Decimal.body_cut he hn hlen
  marked := (Decimal.fractional_body _ x).marked
  fractional k := by
    rw [← String.ofList_toList (s := Layout.producer.write x), Text.Utf8.ofString_ofList,
      Decimal.write_finite hx]
    exact readTree_ne_integer ((Decimal.fractional_body _ x).marked.imp
      (List.mem_append_right _) (List.mem_append_right _)) k

/-- A number with a sign and digits on both sides of the point. -/
theorem wellWritten_of_isFinite_cut :
    (⟨0xC0FE240C9FBE76C9⟩ : Binary64).isFinite = true ∧
      Layout.producer.write ⟨0xC0FE240C9FBE76C9⟩ = "-123456.789" ∧
      WellWritten ⟨0xC0FE240C9FBE76C9⟩ :=
  ⟨by decide, by decide +kernel, wellWritten_of_isFinite (by decide)⟩

end PipelineWatch.Json
