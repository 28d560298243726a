import PipelineWatch.Proofs.Json.Reading
import PipelineWatch.Proofs.Store.Dispatch

/-!
Only UTF-8 is read. The reader looks at the encoding inside strings alone, one character after
the other; but everything else that a document may be spelled with is ASCII, and so a text that
spells a document is UTF-8 as a whole. A frame that is not is refused wherever its bad bytes
stand, and the stores stay as they are.
-/
namespace PipelineWatch

namespace Json

open Text.Utf8 (IsUtf8 isUtf8_of_ascii isUtf8_encode encode_cons encode_nil)

/-! ### Numbers and words -/

theorem isUtf8_nil : IsUtf8 [] :=
  isUtf8_encode []

theorem Blanks.isUtf8 {bs : Bytes} (h : Blanks bs) : IsUtf8 bs := by
  apply isUtf8_of_ascii
  intro b hb
  have blank := h b hb
  simp only [Byte.isBlank, Bool.or_eq_true, beq_iff_eq] at blank
  rcases blank with ((rfl | rfl) | rfl) | rfl <;> decide

theorem Digits.isUtf8 {bs : Bytes} (h : Digits bs) : IsUtf8 bs := by
  apply isUtf8_of_ascii
  intro b hb
  have digit := h.digit b hb
  simp only [Byte.digit?, Bool.and_eq_true, decide_eq_true_eq, UInt8.le_iff_toNat_le,
    UInt8.reduceToNat, Option.isSome_ite] at digit
  simp only [UInt8.lt_iff_toNat_lt, UInt8.reduceToNat]
  omega

theorem SpellsWhole.isUtf8 {bs : Bytes} (h : SpellsWhole bs) : IsUtf8 bs := by
  cases h with
  | zero => exact isUtf8_nil.cons (by decide)
  | digits _ hd => exact hd.isUtf8

theorem SpellsFraction.isUtf8 {f : Option Bytes} {bs : Bytes} (h : SpellsFraction f bs) :
    IsUtf8 bs := by
  cases h with
  | none => exact isUtf8_nil
  | some hd => exact hd.isUtf8.cons (by decide)

theorem SpellsExponent.isUtf8 {e : Option (Bool × Bytes)} {bs : Bytes}
    (h : SpellsExponent e bs) : IsUtf8 bs := by
  have ascii : ∀ {b : UInt8}, Byte.isExponentMark b = true → b < 0x80 := by
    intro b hb
    simp only [Byte.isExponentMark, Bool.or_eq_true, beq_iff_eq] at hb
    rcases hb with rfl | rfl <;> decide
  cases h with
  | none => exact isUtf8_nil
  | bare hm hd => exact hd.isUtf8.cons (ascii hm)
  | plus hm hd => exact (hd.isUtf8.cons (by decide)).cons (ascii hm)
  | minus hm hd => exact (hd.isUtf8.cons (by decide)).cons (ascii hm)

theorem SpellsNumeral.isUtf8 {n : Numeral} {bs : Bytes} (h : SpellsNumeral n bs) :
    IsUtf8 bs := by
  obtain ⟨whole, fraction, exponent⟩ := h
  have sign : ∀ negative : Bool, IsUtf8 (if negative then [Byte.minus] else []) := by
    intro negative
    cases negative with
    | false => exact isUtf8_nil
    | true => exact isUtf8_nil.cons (by decide)
  exact (((sign _).append whole.isUtf8).append fraction.isUtf8).append exponent.isUtf8

/-! ### Strings -/

theorem SpellsUnit.isUtf8 {n : Nat} {bs : Bytes} (h : SpellsUnit n bs) : IsUtf8 bs := by
  have ascii : ∀ {b : UInt8} {d : Nat}, Byte.hexDigit? b = some d → b < 0x80 := by
    intro b d hd
    have some : (Byte.hexDigit? b).isSome = true := by rw [hd]; rfl
    simp only [Byte.hexDigit?, Bool.and_eq_true, decide_eq_true_eq, UInt8.le_iff_toNat_le,
      UInt8.reduceToNat] at some
    simp only [UInt8.lt_iff_toNat_lt, UInt8.reduceToNat]
    split at some
    · omega
    · split at some
      · omega
      · split at some
        · omega
        · cases some
  obtain ⟨ha, hb, hc, hd⟩ := h
  exact (((isUtf8_nil.cons (ascii hd)).cons (ascii hc)).cons (ascii hb)).cons (ascii ha)

theorem SpellsEscape.isUtf8 {c : Char} {bs : Bytes} (h : SpellsEscape c bs) : IsUtf8 bs := by
  cases h with
  | @letter b c hc =>
    -- the letters are all below, so that no byte from there on is one
    have ascii : b < 0x80 := by
      apply Decidable.byContradiction
      intro high
      have other : ∀ d : UInt8, d < 0x80 → b ≠ d := by
        rintro d hd rfl
        exact high hd
      simp (disch := decide) [letterEscape?, other] at hc
    exact isUtf8_nil.cons ascii
  | unit hs => exact hs.isUtf8.cons (by decide)
  | pair hm _ hn =>
    have trail := (hn.isUtf8.cons (b := Byte.smallU) (by decide)).cons (b := Byte.backslash)
      (by decide)
    exact (hm.isUtf8.cons (by decide)).append trail

/-- Raw bytes of a string are those of whole characters, also next to an escape. -/
theorem SpellsChars.isUtf8 {cs : List Char} {bs : Bytes} (h : SpellsChars cs bs) :
    IsUtf8 bs := by
  induction h with
  | nil => exact isUtf8_nil
  | @cons c cs bs more hc _ ih =>
    refine IsUtf8.append ?_ ih
    cases hc with
    | plain =>
      have alone := isUtf8_encode [c]
      rwa [encode_cons, encode_nil, List.append_nil] at alone
    | escape he => exact he.isUtf8.cons (by decide)

theorem SpellsText.isUtf8 {s : String} {bs : Bytes} (h : SpellsText s bs) : IsUtf8 bs := by
  obtain ⟨hs⟩ := h
  exact (hs.isUtf8.cons (by decide)).append (isUtf8_nil.cons (by decide))

theorem SpellsScalar.isUtf8 {v : Json} {bs : Bytes} (h : SpellsScalar v bs) : IsUtf8 bs := by
  cases h with
  | null | yes | no => exact isUtf8_of_ascii (by simp)
  | number hn => exact hn.isUtf8
  | text ht => exact ht.isUtf8

/-! ### Containers -/

section

variable {α : Type} {part : α → Bytes → Prop}

theorem SpellsMore.isUtf8 (h : ∀ {x bs}, part x bs → IsUtf8 bs) {xs : List α} {bs : Bytes}
    (hx : SpellsMore part xs bs) : IsUtf8 bs := by
  induction hx with
  | nil hz => exact hz.isUtf8
  | cons hz ha hp _ ih =>
    exact hz.isUtf8.append ((ha.isUtf8.append ((h hp).append ih)).cons (by decide))

theorem SpellsParts.isUtf8 (h : ∀ {x bs}, part x bs → IsUtf8 bs) {xs : List α} {bs : Bytes}
    (hx : SpellsParts part xs bs) : IsUtf8 bs := by
  cases hx with
  | nil ha => exact ha.isUtf8
  | cons ha hp hm => exact ha.isUtf8.append ((h hp).append (hm.isUtf8 h))

end

theorem SpellsContainer.isUtf8 {spells : Json → Bytes → Prop}
    (h : ∀ {v bs}, spells v bs → IsUtf8 bs) {v : Json} {bs : Bytes}
    (hc : SpellsContainer spells v bs) : IsUtf8 bs := by
  have member : ∀ {m : String × Json} {bs : Bytes}, SpellsMember spells m bs → IsUtf8 bs := by
    rintro _ _ ⟨hk, ha, hb, hv⟩
    exact hk.isUtf8.append (ha.isUtf8.append ((hb.isUtf8.append (h hv)).cons (by decide)))
  have close : ∀ {b : UInt8}, b < 0x80 → IsUtf8 [b] := fun hb => isUtf8_nil.cons hb
  cases hc with
  | array hp => exact ((hp.isUtf8 h).cons (by decide)).append (close (by decide))
  | object hp => exact ((hp.isUtf8 member).cons (by decide)).append (close (by decide))

theorem Spells.isUtf8 {depth : Nat} {v : Json} {bs : Bytes} (h : Spells depth v bs) :
    IsUtf8 bs := by
  induction depth generalizing v bs with
  | zero => exact SpellsScalar.isUtf8 h
  | succ depth ih =>
    rcases h with h | h
    · exact h.isUtf8
    · exact h.isUtf8 ih

/-- A text that spells a document is UTF-8. -/
theorem SpellsDocument.isUtf8 {v : Json} {bs : Bytes} (h : SpellsDocument v bs) :
    IsUtf8 bs := by
  obtain ⟨ha, hv, hz⟩ := h
  exact ha.isUtf8.append (hv.isUtf8.append hz.isUtf8)

/-- The reader stops at a text that is not UTF-8. -/
theorem read_of_not_isUtf8 {bytes : Bytes} (h : ¬ IsUtf8 bytes) :
    ∃ stop, read bytes = .error stop := by
  cases hr : readTree bytes with
  | error stop => exact ⟨stop, by rw [read, hr]; rfl⟩
  | ok v => exact absurd (readTree_eq_ok_iff.mp hr).isUtf8 h

end Json

/-! ### Frames -/

open Text.Utf8 (IsUtf8)

/-- The frame is refused, since it is too long or else since its document cannot be read, and
the stores stay as they are. -/
structure Frame.Refused (limit : Nat) (frame : List UInt8) : Prop where
  failure : ∃ stop, decode limit frame =
    .error (if limit < frame.length then .oversized frame.length limit
      else .undecodable (.ofStop frame stop))
  discarded : ∀ s : Stores, s.dispatch limit frame = (.discarded, s)

/-- **A frame that is not UTF-8 is refused.** -/
theorem Frame.refused_of_not_isUtf8 {frame : List UInt8} (h : ¬ IsUtf8 frame) (limit : Nat) :
    Refused limit frame := by
  obtain ⟨stop, hr⟩ := Json.read_of_not_isUtf8 h
  have failure : decode limit frame =
      .error (if limit < frame.length then .oversized frame.length limit
        else .undecodable (.ofStop frame stop.malformed)) := by
    rw [decode, hr]
    split <;> rfl
  refine ⟨⟨_, failure⟩, ?_⟩
  intro s
  rw [Stores.dispatch, failure]

/-- The bytes of `é` with an escape between them, in a member that no message has:
`{"type":"ping","x":"\xC3\n\xA9"}`. -/
theorem Frame.refused_of_not_isUtf8_split :
    ¬ IsUtf8 [0x7B, 0x22, 0x74, 0x79, 0x70, 0x65, 0x22, 0x3A, 0x22, 0x70, 0x69, 0x6E, 0x67, 0x22,
      0x2C, 0x22, 0x78, 0x22, 0x3A, 0x22, 0xC3, 0x5C, 0x6E, 0xA9, 0x22, 0x7D] ∧
    Refused 262144 [0x7B, 0x22, 0x74, 0x79, 0x70, 0x65, 0x22, 0x3A, 0x22, 0x70, 0x69, 0x6E, 0x67,
      0x22, 0x2C, 0x22, 0x78, 0x22, 0x3A, 0x22, 0xC3, 0x5C, 0x6E, 0xA9, 0x22, 0x7D] :=
  ⟨by decide, refused_of_not_isUtf8 (by decide) 262144⟩

end PipelineWatch
