import PipelineWatch.Text.Utf8

/-!
Reading UTF-8 is the inverse of writing it: `next?` takes a character off a list of
bytes exactly when the list starts with the bytes of that character.
-/
namespace PipelineWatch.Text.Utf8

theorem isTail_iff {b : UInt8} : isTail b = true ↔ 0x80 ≤ b.toNat ∧ b.toNat ≤ 0xBF := by
  simp [isTail, UInt8.le_iff_toNat_le]

theorem toNat_ofNat_of_lt {n : Nat} (h : n < 256) : (UInt8.ofNat n).toNat = n := by
  rw [UInt8.toNat_ofNat', Nat.mod_eq_of_lt h]

theorem toNat_charOfNat {n : Nat} (h : n.isValidChar) : (Char.ofNat n).val.toNat = n := by
  rw [Char.ofNat, dif_pos h]
  rfl

/-! ### The four forms -/

theorem next?_one {a : UInt8} (rest : List UInt8) (ha : a.toNat < 0x80) :
    next? (a :: rest) = some (Char.ofNat a.toNat, rest) := by
  have h : a < 0x80 := UInt8.lt_iff_toNat_lt.mpr ha
  simp only [next?, if_pos h]

theorem next?_two {a b : UInt8} (rest : List UInt8) (ha : 0xC2 ≤ a.toNat) (ha' : a.toNat ≤ 0xDF)
    (hb : isTail b = true) :
    next? (a :: b :: rest) =
      some (Char.ofNat (a.toNat % 0x20 * 0x40 + tailBits b), rest) := by
  have h1 : ¬ a < 0x80 := by simp [UInt8.le_iff_toNat_le]; omega
  have h2 : (0xC2 ≤ a && a ≤ 0xDF) = true := by simp [UInt8.le_iff_toNat_le]; omega
  simp only [next?, if_neg h1, if_pos h2, if_pos hb]

theorem next?_three {a b c : UInt8} (rest : List UInt8) (ha : 0xE0 ≤ a.toNat)
    (ha' : a.toNat ≤ 0xEF) (hb : isTail b = true) (hc : isTail c = true)
    (hlow : a.toNat = 0xE0 → 0xA0 ≤ b.toNat) (hhigh : a.toNat = 0xED → b.toNat ≤ 0x9F) :
    next? (a :: b :: c :: rest) =
      some (Char.ofNat (a.toNat % 0x10 * 0x1000 + tailBits b * 0x40 + tailBits c), rest) := by
  have h1 : ¬ a < 0x80 := by simp [UInt8.le_iff_toNat_le]; omega
  have h2 : ¬ (0xC2 ≤ a && a ≤ 0xDF) = true := by simp [UInt8.lt_iff_toNat_lt]; omega
  have h3 : (0xE0 ≤ a && a ≤ 0xEF) = true := by simp [UInt8.le_iff_toNat_le]; omega
  have h4 : (isTail b && isTail c && (a != 0xE0 || 0xA0 ≤ b) && (a != 0xED || b ≤ 0x9F)) =
      true := by
    simp [hb, hc, UInt8.le_iff_toNat_le, ← UInt8.toNat_inj]; omega
  simp only [next?, if_neg h1, if_neg h2, if_pos h3, if_pos h4]

theorem next?_four {a b c d : UInt8} (rest : List UInt8) (ha : 0xF0 ≤ a.toNat)
    (ha' : a.toNat ≤ 0xF4) (hb : isTail b = true) (hc : isTail c = true) (hd : isTail d = true)
    (hlow : a.toNat = 0xF0 → 0x90 ≤ b.toNat) (hhigh : a.toNat = 0xF4 → b.toNat ≤ 0x8F) :
    next? (a :: b :: c :: d :: rest) =
      some (Char.ofNat (a.toNat % 0x08 * 0x40000 + tailBits b * 0x1000 + tailBits c * 0x40 +
        tailBits d), rest) := by
  have h1 : ¬ a < 0x80 := by simp [UInt8.le_iff_toNat_le]; omega
  have h2 : ¬ (0xC2 ≤ a && a ≤ 0xDF) = true := by simp [UInt8.lt_iff_toNat_lt]; omega
  have h3 : ¬ (0xE0 ≤ a && a ≤ 0xEF) = true := by simp [UInt8.lt_iff_toNat_lt]; omega
  have h4 : (0xF0 ≤ a && a ≤ 0xF4) = true := by simp [UInt8.le_iff_toNat_le]; omega
  have h5 : (isTail b && isTail c && isTail d && (a != 0xF0 || 0x90 ≤ b) &&
      (a != 0xF4 || b ≤ 0x8F)) = true := by
    simp [hb, hc, hd, UInt8.le_iff_toNat_le, ← UInt8.toNat_inj]; omega
  simp only [next?, if_neg h1, if_neg h2, if_neg h3, if_pos h4, if_pos h5]

/-- A character is read from its own bytes. -/
theorem next?_encodeChar (c : Char) (rest : List UInt8) :
    next? (String.utf8EncodeChar c ++ rest) = some (c, rest) := by
  have hv : c.val.toNat.isValidChar := c.valid
  have hc : Char.ofNat c.val.toNat = c := Char.ofNat_toNat c
  simp only [Nat.isValidChar] at hv
  generalize hn : c.val.toNat = n at hv hc
  simp only [String.utf8EncodeChar, hn]
  -- `key` leaves the number of the character to be computed from its bytes
  have key : ∀ m, m = n → some (Char.ofNat m, rest) = some (c, rest) := by
    rintro m rfl
    rw [hc]
  split
  · have ha := toNat_ofNat_of_lt (n := n) (by omega)
    refine (next?_one rest (by omega)).trans (key _ ha)
  · split
    · have ha := toNat_ofNat_of_lt (n := n / 64 % 0x20 + 0xC0) (by omega)
      have hb := toNat_ofNat_of_lt (n := n % 0x40 + 0x80) (by omega)
      refine (next?_two rest (by omega) (by omega) (isTail_iff.mpr (by omega))).trans (key _ ?_)
      simp only [tailBits, ha, hb]
      omega
    · split
      · have ha := toNat_ofNat_of_lt (n := n / 4096 % 0x10 + 0xE0) (by omega)
        have hb := toNat_ofNat_of_lt (n := n / 64 % 0x40 + 0x80) (by omega)
        have hd := toNat_ofNat_of_lt (n := n % 0x40 + 0x80) (by omega)
        refine (next?_three rest (by omega) (by omega) (isTail_iff.mpr (by omega))
          (isTail_iff.mpr (by omega)) (by omega) (by omega)).trans (key _ ?_)
        simp only [tailBits, ha, hb, hd]
        omega
      · have ha := toNat_ofNat_of_lt (n := n / 262144 % 0x08 + 0xF0) (by omega)
        have hb := toNat_ofNat_of_lt (n := n / 4096 % 0x40 + 0x80) (by omega)
        have hd := toNat_ofNat_of_lt (n := n / 64 % 0x40 + 0x80) (by omega)
        have he := toNat_ofNat_of_lt (n := n % 0x40 + 0x80) (by omega)
        refine (next?_four rest (by omega) (by omega) (isTail_iff.mpr (by omega))
          (isTail_iff.mpr (by omega)) (isTail_iff.mpr (by omega)) (by omega)
          (by omega)).trans (key _ ?_)
        simp only [tailBits, ha, hb, hd, he]
        omega

/-- The bytes of a character by its number, where `n` is one. -/
theorem encodeChar_ofNat {n : Nat} (h : n.isValidChar) :
    String.utf8EncodeChar (Char.ofNat n) =
      if n ≤ 0x7F then [.ofNat n]
      else if n ≤ 0x7FF then [.ofNat (n / 64 % 0x20 + 0xC0), .ofNat (n % 0x40 + 0x80)]
      else if n ≤ 0xFFFF then
        [.ofNat (n / 4096 % 0x10 + 0xE0), .ofNat (n / 64 % 0x40 + 0x80), .ofNat (n % 0x40 + 0x80)]
      else
        [.ofNat (n / 262144 % 0x08 + 0xF0), .ofNat (n / 4096 % 0x40 + 0x80),
          .ofNat (n / 64 % 0x40 + 0x80), .ofNat (n % 0x40 + 0x80)] := by
  simp only [String.utf8EncodeChar, toNat_charOfNat h]

theorem ofNat_eq_of_toNat {n : Nat} {b : UInt8} (h : n = b.toNat) : UInt8.ofNat n = b := by
  rw [h, UInt8.ofNat_toNat]

/-! ### The bytes of what is read -/

theorem encodeChar_one {a : UInt8} (ha : a.toNat < 0x80) :
    String.utf8EncodeChar (Char.ofNat a.toNat) = [a] := by
  rw [encodeChar_ofNat (.inl (by omega)), if_pos (by omega), UInt8.ofNat_toNat]

theorem encodeChar_two {a b : UInt8} (ha : 0xC2 ≤ a.toNat) (ha' : a.toNat ≤ 0xDF)
    (hb : isTail b = true) :
    String.utf8EncodeChar (Char.ofNat (a.toNat % 0x20 * 0x40 + tailBits b)) = [a, b] := by
  rw [isTail_iff] at hb
  simp only [tailBits]
  rw [encodeChar_ofNat (.inl (by omega)), if_neg (by omega), if_pos (by omega),
    ofNat_eq_of_toNat (b := a) (by omega), ofNat_eq_of_toNat (b := b) (by omega)]

theorem encodeChar_three {a b c : UInt8} (ha : 0xE0 ≤ a.toNat) (ha' : a.toNat ≤ 0xEF)
    (hb : isTail b = true) (hc : isTail c = true) (hlow : a.toNat = 0xE0 → 0xA0 ≤ b.toNat)
    (hhigh : a.toNat = 0xED → b.toNat ≤ 0x9F) :
    String.utf8EncodeChar
      (Char.ofNat (a.toNat % 0x10 * 0x1000 + tailBits b * 0x40 + tailBits c)) = [a, b, c] := by
  rw [isTail_iff] at hb hc
  simp only [tailBits]
  have hn : (a.toNat % 0x10 * 0x1000 + b.toNat % 0x40 * 0x40 + c.toNat % 0x40).isValidChar := by
    simp only [Nat.isValidChar]
    omega
  rw [encodeChar_ofNat hn, if_neg (by omega), if_neg (by omega), if_pos (by omega),
    ofNat_eq_of_toNat (b := a) (by omega), ofNat_eq_of_toNat (b := b) (by omega),
    ofNat_eq_of_toNat (b := c) (by omega)]

theorem encodeChar_four {a b c d : UInt8} (ha : 0xF0 ≤ a.toNat) (ha' : a.toNat ≤ 0xF4)
    (hb : isTail b = true) (hc : isTail c = true) (hd : isTail d = true)
    (hlow : a.toNat = 0xF0 → 0x90 ≤ b.toNat) (hhigh : a.toNat = 0xF4 → b.toNat ≤ 0x8F) :
    String.utf8EncodeChar (Char.ofNat (a.toNat % 0x08 * 0x40000 + tailBits b * 0x1000 +
      tailBits c * 0x40 + tailBits d)) = [a, b, c, d] := by
  rw [isTail_iff] at hb hc hd
  simp only [tailBits]
  rw [encodeChar_ofNat (.inr (by omega)), if_neg (by omega), if_neg (by omega),
    if_neg (by omega), ofNat_eq_of_toNat (b := a) (by omega),
    ofNat_eq_of_toNat (b := b) (by omega), ofNat_eq_of_toNat (b := c) (by omega),
    ofNat_eq_of_toNat (b := d) (by omega)]

/-- What is read from a list is the character whose bytes it starts with. -/
theorem eq_encodeChar_of_next? {input rest : List UInt8} {c : Char}
    (h : next? input = some (c, rest)) : input = String.utf8EncodeChar c ++ rest := by
  have range : ∀ {a low high : UInt8}, (low ≤ a && a ≤ high) = true →
      low.toNat ≤ a.toNat ∧ a.toNat ≤ high.toNat := by
    intro a low high h
    simpa [UInt8.le_iff_toNat_le] using h
  cases input with
  | nil => simp [next?] at h
  | cons a input =>
    simp only [next?] at h
    split at h
    · next ha =>
      cases h
      rw [encodeChar_one (UInt8.lt_iff_toNat_lt.mp ha)]
      rfl
    split at h
    · next ha =>
      obtain ⟨ha, ha'⟩ := range ha
      split at h
      · next b input =>
        split at h
        · next hb =>
          cases h
          rw [encodeChar_two ha ha' hb]
          rfl
        · cases h
      · cases h
    split at h
    · next ha =>
      obtain ⟨ha, ha'⟩ := range ha
      split at h
      · next b c input =>
        split at h
        · next hb =>
          simp only [Bool.and_eq_true, Bool.or_eq_true, bne_iff_ne, ne_eq, ← UInt8.toNat_inj,
            decide_eq_true_eq, UInt8.le_iff_toNat_le, UInt8.reduceToNat] at hb
          obtain ⟨⟨⟨hb, hc⟩, hlow⟩, hhigh⟩ := hb
          cases h
          rw [encodeChar_three ha ha' hb hc (by omega) (by omega)]
          rfl
        · cases h
      · cases h
    split at h
    · next ha =>
      obtain ⟨ha, ha'⟩ := range ha
      split at h
      · next b c d input =>
        split at h
        · next hb =>
          simp only [Bool.and_eq_true, Bool.or_eq_true, bne_iff_ne, ne_eq, ← UInt8.toNat_inj,
            decide_eq_true_eq, UInt8.le_iff_toNat_le, UInt8.reduceToNat] at hb
          obtain ⟨⟨⟨⟨hb, hc⟩, hd⟩, hlow⟩, hhigh⟩ := hb
          cases h
          rw [encodeChar_four ha ha' hb hc hd (by omega) (by omega)]
          rfl
        · cases h
      · cases h
    · cases h

theorem next?_eq_some_iff {input rest : List UInt8} {c : Char} :
    next? input = some (c, rest) ↔ input = String.utf8EncodeChar c ++ rest :=
  ⟨eq_encodeChar_of_next?, fun h => h ▸ next?_encodeChar c rest⟩

/-! ### Whole texts -/

@[simp] theorem encode_nil : encode [] = [] := rfl

@[simp] theorem encode_cons (c : Char) (cs : List Char) :
    encode (c :: cs) = String.utf8EncodeChar c ++ encode cs :=
  List.flatMap_cons

@[simp] theorem encode_append (cs ds : List Char) :
    encode (cs ++ ds) = encode cs ++ encode ds :=
  List.flatMap_append

theorem ofString_eq_encode (s : String) : ofString s = encode s.toList := by
  rw [ofString, String.toUTF8, ← String.utf8Encode_toList, List.utf8Encode,
    List.data_toByteArray]
  rfl

theorem ofString_ofList (cs : List Char) : ofString (String.ofList cs) = encode cs := by
  rw [ofString_eq_encode, String.toList_ofList]

/-- The bytes of a text tell its characters. -/
theorem encode_injective {cs ds : List Char} (h : encode cs = encode ds) : cs = ds := by
  induction cs generalizing ds with
  | nil =>
    cases ds with
    | nil => rfl
    | cons d ds =>
      have hd := next?_encodeChar d (encode ds)
      rw [← encode_cons, ← h] at hd
      simp [next?] at hd
  | cons c cs ih =>
    have hc := next?_encodeChar c (encode cs)
    rw [← encode_cons, h, next?_eq_some_iff] at hc
    cases ds with
    | nil => simp [String.utf8EncodeChar_ne_nil] at hc
    | cons d ds =>
      have hd := next?_encodeChar d (encode ds)
      rw [← encode_cons, hc, next?_encodeChar] at hd
      obtain ⟨rfl, hrest⟩ := Prod.mk.inj (Option.some.inj hd)
      rw [ih hrest]

theorem ofString_injective {s t : String} (h : ofString s = ofString t) : s = t := by
  rw [ofString_eq_encode, ofString_eq_encode] at h
  exact String.toList_inj.mp (encode_injective h)

/-! ### What is UTF-8 -/

/-- The bytes are those of some text. -/
def IsUtf8 (bytes : List UInt8) : Prop :=
  ∃ s : String, ofString s = bytes

theorem isUtf8_encode (cs : List Char) : IsUtf8 (encode cs) :=
  ⟨.ofList cs, ofString_ofList cs⟩

theorem IsUtf8.exists_encode {bytes : List UInt8} (h : IsUtf8 bytes) :
    ∃ cs, encode cs = bytes := by
  obtain ⟨s, rfl⟩ := h
  exact ⟨s.toList, (ofString_eq_encode s).symm⟩

theorem IsUtf8.append {as bs : List UInt8} (ha : IsUtf8 as) (hb : IsUtf8 bs) :
    IsUtf8 (as ++ bs) := by
  obtain ⟨cs, rfl⟩ := ha.exists_encode
  obtain ⟨ds, rfl⟩ := hb.exists_encode
  rw [← encode_append]
  exact isUtf8_encode _

/-- A byte of ASCII is a text by itself, wherever it stands. -/
theorem IsUtf8.cons {b : UInt8} {bs : List UInt8} (hb : b < 0x80) (h : IsUtf8 bs) :
    IsUtf8 (b :: bs) := by
  have ascii : encode [Char.ofNat b.toNat] = [b] := by
    simp [encodeChar_one (UInt8.lt_iff_toNat_lt.mp hb)]
  rw [← List.singleton_append, ← ascii]
  exact (isUtf8_encode _).append h

theorem isUtf8_of_ascii {bs : List UInt8} (h : ∀ b ∈ bs, b < 0x80) : IsUtf8 bs := by
  induction bs with
  | nil => exact isUtf8_encode []
  | cons b bs ih =>
    obtain ⟨hb, hbs⟩ := List.forall_mem_cons.mp h
    exact (ih hbs).cons hb

theorem decodeOnto_encode {cs : List Char} {fuel : List UInt8} (h : cs.length ≤ fuel.length)
    (done : List Char) : decodeOnto fuel done (encode cs) = some (done.reverse ++ cs) := by
  induction cs generalizing fuel done with
  | nil => simp [decodeOnto]
  | cons c cs ih =>
    cases fuel with
    | nil => simp at h
    | cons f fuel =>
      have first := next?_encodeChar c (encode cs)
      cases bytes : String.utf8EncodeChar c ++ encode cs with
      | nil => simp [String.utf8EncodeChar_ne_nil] at bytes
      | cons b rest =>
        rw [bytes] at first
        rw [encode_cons, bytes]
        simp only [decodeOnto, first]
        rw [ih (by simpa using h)]
        simp

theorem eq_encode_of_decodeOnto {fuel bytes : List UInt8} {done cs : List Char}
    (h : decodeOnto fuel done bytes = some cs) :
    ∃ ds, bytes = encode ds ∧ cs = done.reverse ++ ds := by
  induction fuel generalizing done bytes with
  | nil =>
    cases bytes with
    | nil => exact ⟨[], rfl, by simpa [decodeOnto] using h.symm⟩
    | cons b bytes => cases h
  | cons f fuel ih =>
    cases bytes with
    | nil => exact ⟨[], rfl, by simpa [decodeOnto] using h.symm⟩
    | cons b bytes =>
      simp only [decodeOnto] at h
      split at h
      · next c rest first =>
        obtain ⟨ds, rfl, rfl⟩ := ih h
        refine ⟨c :: ds, ?_, by simp⟩
        rw [encode_cons]
        exact eq_encodeChar_of_next? first
      · cases h

/-- Decoding gives the characters whose bytes these are. -/
theorem decode_eq_some_iff {bytes : List UInt8} {cs : List Char} :
    decode bytes = some cs ↔ bytes = encode cs := by
  constructor
  · intro h
    obtain ⟨ds, rfl, rfl⟩ := eq_encode_of_decodeOnto h
    simp
  · rintro rfl
    have enough : cs.length ≤ (encode cs).length := by
      induction cs with
      | nil => simp
      | cons c cs ih =>
        have one : 0 < (String.utf8EncodeChar c).length :=
          List.length_pos_iff.mpr String.utf8EncodeChar_ne_nil
        rw [encode_cons, List.length_append, List.length_cons]
        omega
    exact decodeOnto_encode enough []

theorem isUtf8_iff {bytes : List UInt8} : IsUtf8 bytes ↔ (decode bytes).isSome = true := by
  rw [Option.isSome_iff_exists]
  constructor
  · intro h
    obtain ⟨cs, rfl⟩ := h.exists_encode
    exact ⟨cs, decode_eq_some_iff.mpr rfl⟩
  · rintro ⟨cs, h⟩
    rw [decode_eq_some_iff.mp h]
    exact isUtf8_encode cs

instance (bytes : List UInt8) : Decidable (IsUtf8 bytes) :=
  decidable_of_iff _ isUtf8_iff.symm

end PipelineWatch.Text.Utf8
