import PipelineWatch.Proofs.Json.Spelling
import PipelineWatch.Proofs.Text.Utf8

/-!
Reading a string: every text of a string is read as that string, and nothing else is.
-/
namespace PipelineWatch.Json

/-! ### Escapes -/

theorem readHex4_eq_ok_iff {n : Nat} {input rest : Bytes} :
    readHex4 input = .ok (n, rest) ↔ ∃ bs, SpellsUnit n bs ∧ input = bs ++ rest := by
  constructor
  · intro h
    unfold readHex4 at h
    split at h
    · next a b c d tail =>
      split at h
      · next w x y z hw hx hy hz =>
        cases h
        exact ⟨[a, b, c, d], .mk hw hx hy hz, rfl⟩
      · cases h
    · cases h
  · rintro ⟨bs, h, rfl⟩
    cases h with
    | mk hw hx hy hz => simp [readHex4, hw, hx, hy, hz]

theorem readTrail_eq_ok_iff {m : Nat} {c : Char} {input rest : Bytes} :
    readTrail m input = .ok (c, rest) ↔ ∃ n bs, SpellsUnit n bs ∧ isTrail n = true ∧
      c = pairChar m n ∧ input = Byte.backslash :: Byte.smallU :: bs ++ rest := by
  constructor
  · intro h
    cases input with
    | nil => cases h
    | cons b input =>
      simp only [readTrail] at h
      split at h
      · next hb =>
        subst hb
        cases input with
        | nil => cases h
        | cons u input =>
          simp only at h
          split at h
          · next hu =>
            subst hu
            split at h
            · next n tail hn =>
              split at h
              · next ht =>
                simp only [Except.ok.injEq, Prod.mk.injEq] at h
                obtain ⟨hc, rfl⟩ := h
                obtain ⟨bs, hs, rfl⟩ := readHex4_eq_ok_iff.mp hn
                exact ⟨n, bs, hs, ht, hc.symm, rfl⟩
              · cases h
            · cases h
          · cases h
      · cases h
  · rintro ⟨n, bs, hs, ht, hc, rfl⟩
    have hn : readHex4 (bs ++ rest) = .ok (n, rest) := readHex4_eq_ok_iff.mpr ⟨bs, hs, rfl⟩
    simp [readTrail, hn, ht, hc]

theorem isTrail_of_isLead {n : Nat} (h : isLead n = true) : isTrail n = false := by
  simp [isLead, isTrail] at h ⊢
  omega

theorem readEscape_eq_ok_iff {c : Char} {input rest : Bytes} :
    readEscape input = .ok (c, rest) ↔ ∃ bs, SpellsEscape c bs ∧ input = bs ++ rest := by
  constructor
  · intro h
    cases input with
    | nil => cases h
    | cons b input =>
      simp only [readEscape] at h
      split at h
      · next hb =>
        subst hb
        unfold readUnicodeEscape at h
        split at h
        · next m tail hm =>
          obtain ⟨bs, hs, rfl⟩ := readHex4_eq_ok_iff.mp hm
          split at h
          · cases h
          · next ht =>
            split at h
            · next hl =>
              obtain ⟨n, cs, hn, ht, hc, rfl⟩ := readTrail_eq_ok_iff.mp h
              rw [hc]
              exact ⟨_, .pair hs hl hn ht, by simp⟩
            · next hl =>
              cases h
              exact ⟨_, .unit hs (by simpa using hl) (by simpa using ht), rfl⟩
        · cases h
      · split at h
        · next hc =>
          cases h
          exact ⟨[b], .letter hc, rfl⟩
        · cases h
  · rintro ⟨bs, h, rfl⟩
    have hex : ∀ {n bs} (rest), SpellsUnit n bs → readHex4 (bs ++ rest) = .ok (n, rest) :=
      fun rest hs => readHex4_eq_ok_iff.mpr ⟨_, hs, rfl⟩
    cases h with
    | @letter b c hc =>
      have hb : b ≠ Byte.smallU := by
        rintro rfl
        cases hc
      simp [readEscape, hb, hc]
    | unit hs hl ht => simp [readEscape, readUnicodeEscape, hex rest hs, hl, ht]
    | @pair m n bs cs hm hl hn ht =>
      have htail : readTrail m (Byte.backslash :: Byte.smallU :: cs ++ rest) =
          .ok (pairChar m n, rest) := readTrail_eq_ok_iff.mpr ⟨n, cs, hn, ht, rfl, rfl⟩
      have hlead := hex (Byte.backslash :: Byte.smallU :: cs ++ rest) hm
      simp only [List.cons_append, List.append_assoc] at htail hlead ⊢
      simp [readEscape, readUnicodeEscape, hlead, isTrail_of_isLead hl, hl, htail]

/-! ### Characters -/

/-- The first byte of a character that may stand as it is: neither the closing quote nor
a backslash nor a control character. -/
theorem encodeChar_head {c : Char} (h : 0x20 ≤ c.toNat) (hq : c ≠ '"') (hb : c ≠ '\\') :
    ∃ b bs, String.utf8EncodeChar c = b :: bs ∧ b ≠ Byte.quote ∧ b ≠ Byte.backslash ∧
      ¬ b < 0x20 := by
  have hv : c.val.toNat.isValidChar := c.valid
  have hn : c.val.toNat = c.toNat := rfl
  have hq' : c.toNat ≠ 0x22 := fun hc => hq (Char.toNat_inj.mp hc)
  have hb' : c.toNat ≠ 0x5C := fun hc => hb (Char.toNat_inj.mp hc)
  simp only [Nat.isValidChar] at hv
  -- a first byte above the ASCII ones is none of these
  have key : ∀ n, n < 256 → 0x20 ≤ n → n ≠ 0x22 → n ≠ 0x5C →
      UInt8.ofNat n ≠ Byte.quote ∧ UInt8.ofNat n ≠ Byte.backslash ∧ ¬ UInt8.ofNat n < 0x20 := by
    intro n hlt h20 h22 h5c
    have ht := Text.Utf8.toNat_ofNat_of_lt hlt
    refine ⟨?_, ?_, ?_⟩
    · exact fun he => h22 (ht.symm.trans (congrArg UInt8.toNat he))
    · exact fun he => h5c (ht.symm.trans (congrArg UInt8.toNat he))
    · rw [UInt8.lt_iff_toNat_lt, ht]
      exact Nat.not_lt.mpr h20
  simp only [String.utf8EncodeChar]
  split
  · exact ⟨_, _, rfl, key _ (by omega) (by omega) (by omega) (by omega)⟩
  split
  · exact ⟨_, _, rfl, key _ (by omega) (by omega) (by omega) (by omega)⟩
  split
  · exact ⟨_, _, rfl, key _ (by omega) (by omega) (by omega) (by omega)⟩
  · exact ⟨_, _, rfl, key _ (by omega) (by omega) (by omega) (by omega)⟩

theorem encodeChar_of_ascii {c : Char} (h : c.toNat < 0x80) :
    String.utf8EncodeChar c = [.ofNat c.toNat] := by
  have hn : c.val.toNat = c.toNat := rfl
  simp only [String.utf8EncodeChar, hn]
  rw [if_pos (by omega)]

theorem SpellsChar.length_pos {c : Char} {bs : Bytes} (h : SpellsChar c bs) :
    0 < bs.length := by
  cases h with
  | plain => exact List.length_pos_iff.mpr String.utf8EncodeChar_ne_nil
  | escape => exact Nat.succ_pos _

theorem SpellsChars.length_le {cs : List Char} {bs : Bytes} (h : SpellsChars cs bs) :
    cs.length ≤ bs.length := by
  induction h with
  | nil => exact Nat.le_refl _
  | cons hc _ ih =>
    have hpos := hc.length_pos
    rw [List.length_cons, List.length_append]
    omega

/-- One step of the reader takes one character. -/
theorem readTextOnto_char {c : Char} {bs : Bytes} (h : SpellsChar c bs) (f : UInt8)
    (fuel : Bytes) (done : List Char) (rest : Bytes) :
    readTextOnto (f :: fuel) done none (bs ++ rest) = readTextOnto fuel (c :: done) none rest := by
  cases h with
  | plain h20 hq hb =>
    obtain ⟨b, bs, hbs, h1, h2, h3⟩ := encodeChar_head h20 hq hb
    have hn := Text.Utf8.next?_encodeChar c rest
    rw [hbs, List.cons_append] at hn ⊢
    simp only [readTextOnto, if_neg h1, if_neg h2, if_neg h3, hn, Option.map_none]
  | @escape bs hs =>
    have hr : readEscape (bs ++ rest) = .ok (c, rest) := readEscape_eq_ok_iff.mpr ⟨bs, hs, rfl⟩
    have hq : Byte.backslash ≠ Byte.quote := by decide
    simp only [List.cons_append, readTextOnto, if_neg hq, if_pos, hr, Option.map_none]

theorem readTextOnto_spelled {cs : List Char} {bs : Bytes} (h : SpellsChars cs bs)
    {fuel : Bytes} (hfuel : cs.length < fuel.length) (done : List Char) (rest : Bytes) :
    readTextOnto fuel done none (bs ++ Byte.quote :: rest) =
      .ok (.ofList (done.reverse ++ cs), rest) := by
  induction h generalizing fuel done with
  | nil =>
    cases fuel with
    | nil => simp at hfuel
    | cons f fuel => simp [readTextOnto]
  | @cons c cs bs more hc _ ih =>
    cases fuel with
    | nil => simp at hfuel
    | cons f fuel =>
      rw [List.append_assoc, readTextOnto_char hc, ih (by simpa using hfuel)]
      simp

/-- What the reader passes over character by character is a text of these. -/
theorem exists_spelled_of_readTextOnto {fuel input rest : Bytes} {done : List Char}
    {bad : Option Nat} {s : String} (h : readTextOnto fuel done bad input = .ok (s, rest)) :
    bad = none ∧ ∃ cs bs, SpellsChars cs bs ∧ s = .ofList (done.reverse ++ cs) ∧
      input = bs ++ Byte.quote :: rest := by
  -- one character more in front of what is read later
  have push : ∀ {c bs done input}, SpellsChar c bs →
      (∃ cs more, SpellsChars cs more ∧ s = .ofList ((c :: done).reverse ++ cs) ∧
        input = more ++ Byte.quote :: rest) →
      ∃ cs more, SpellsChars cs more ∧ s = .ofList (done.reverse ++ cs) ∧
        bs ++ input = more ++ Byte.quote :: rest := by
    rintro c bs done input hc ⟨cs, more, hs, rfl, rfl⟩
    exact ⟨c :: cs, bs ++ more, .cons hc hs, by simp, by simp⟩
  induction fuel generalizing done bad input with
  | nil => cases input <;> cases h
  | cons f fuel ih =>
    cases input with
    | nil => cases h
    | cons b input =>
      simp only [readTextOnto] at h
      split at h
      · next hb =>
        subst hb
        -- a bad byte is reported at the closing quote, and nothing is read then
        cases bad with
        | none =>
          cases h
          exact ⟨rfl, [], [], .nil, by simp, rfl⟩
        | some _ => cases h
      next hq =>
      split at h
      · next hb =>
        subst hb
        split at h
        · next c tail hr =>
          obtain ⟨hbad, hmore⟩ := ih h
          obtain ⟨bs, hs, rfl⟩ := readEscape_eq_ok_iff.mp hr
          exact ⟨by simpa using hbad, push (.escape hs) hmore⟩
        · cases h
      next hbs =>
      split at h
      · cases h
      next h20 =>
      split at h
      · next c tail hn =>
        obtain ⟨hbad, hmore⟩ := ih h
        have hin := Text.Utf8.eq_encodeChar_of_next? hn
        refine ⟨by simpa using hbad, ?_⟩
        -- the reader looks at the byte; of an ASCII character it is all there is
        have hascii : c.toNat < 0x80 → b = .ofNat c.toNat := by
          intro hc
          rw [encodeChar_of_ascii hc] at hin
          exact (List.cons.inj hin).1
        rw [hin]
        refine push (.plain ?_ ?_ ?_) hmore
        · refine Nat.le_of_not_lt fun hc => h20 ?_
          rw [hascii (by omega), UInt8.lt_iff_toNat_lt,
            Text.Utf8.toNat_ofNat_of_lt (by omega)]
          exact hc
        · rintro rfl
          exact hq (hascii (by decide))
        · rintro rfl
          exact hbs (hascii (by decide))
      · obtain ⟨hbad, -⟩ := ih h
        cases hbad

/-! ### Strings -/

theorem readText_spelled {s : String} {bs : Bytes} (h : SpellsText s bs) (rest : Bytes) :
    ∃ more, bs ++ rest = Byte.quote :: more ∧ readText more = .ok (s, rest) := by
  cases h with
  | @mk cs bs hs =>
    refine ⟨bs ++ Byte.quote :: rest, by simp, ?_⟩
    have hle := hs.length_le
    have hfuel : cs.length < (bs ++ Byte.quote :: rest).length := by
      rw [List.length_append, List.length_cons]
      omega
    rw [readText, readTextOnto_spelled hs hfuel]
    rfl

theorem exists_spelled_of_readText {s : String} {input rest : Bytes}
    (h : readText input = .ok (s, rest)) :
    ∃ bs, SpellsText s bs ∧ Byte.quote :: input = bs ++ rest := by
  obtain ⟨-, cs, bs, hs, rfl, rfl⟩ := exists_spelled_of_readTextOnto h
  exact ⟨_, .mk hs, by simp⟩

end PipelineWatch.Json
