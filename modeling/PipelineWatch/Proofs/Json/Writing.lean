import PipelineWatch.Json.Writer
import PipelineWatch.Proofs.Json.Normal
import PipelineWatch.Proofs.Json.Reading
import PipelineWatch.Proofs.Text.Digits

/-!
The text of a document in the order of reading, and that it spells the document: what a style
writes is in the grammar, whatever blanks it puts behind commas and colons, unless the document
nests too deep. Fractions are the ones that their texts spell.
-/
namespace PipelineWatch.Json

open Text.Utf8 (encode)

/-! ### The text from its start -/

/-- A string with its quotes, in the order of reading. -/
def Style.quoted (style : Style) (s : String) : List Char :=
  '"' :: (s.toList.flatMap style.char ++ ['"'])

mutual

/-- The text of a value, in the order of reading. -/
def chars (style : Style) : Json → List Char
  | .null => ['n', 'u', 'l', 'l']
  | .bool true => ['t', 'r', 'u', 'e']
  | .bool false => ['f', 'a', 'l', 's', 'e']
  | .integer n => (toString n).toList
  | .float x => (style.numbers.write x).toList
  | .text s => style.quoted s
  | .array items => '[' :: (itemsChars style true items ++ [']'])
  | .object members => '\x7b' :: (membersChars style true members ++ ['\x7d'])

/-- The items of a list, each but the first behind a comma. -/
def itemsChars (style : Style) (first : Bool) : List Json → List Char
  | [] => []
  | v :: vs =>
    (if first then [] else style.between) ++ (chars style v ++ itemsChars style false vs)

/-- The members of an object, each but the first behind a comma. -/
def membersChars (style : Style) (first : Bool) : Members → List Char
  | [] => []
  | (key, v) :: ms =>
    (if first then [] else style.between) ++
      (style.quoted key ++ (style.afterKey ++ (chars style v ++ membersChars style false ms)))

end

variable {style : Style}

section

variable {α : Type}

/-- The parts of a container, each but the first behind a comma. -/
def partsChars (style : Style) (part : α → List Char) (first : Bool) : List α → List Char
  | [] => []
  | x :: xs =>
    (if first then [] else style.between) ++ (part x ++ partsChars style part false xs)

theorem itemsChars_eq (first : Bool) (vs : List Json) :
    itemsChars style first vs = partsChars style (chars style) first vs := by
  induction vs generalizing first with
  | nil => rfl
  | cons v vs ih => rw [itemsChars, partsChars, ih]

/-- A member: its key, what stands behind a key, and its value. -/
def memberChars (style : Style) (m : String × Json) : List Char :=
  style.quoted m.1 ++ (style.afterKey ++ chars style m.2)

theorem membersChars_eq (first : Bool) (ms : Members) :
    membersChars style first ms = partsChars style (memberChars style) first ms := by
  induction ms generalizing first with
  | nil => rfl
  | cons m ms ih => simp [membersChars, partsChars, memberChars, ih]

end

theorem Style.textOnto_eq (out : List Char) (s : String) :
    style.textOnto out s = (style.quoted s).reverse ++ out := by
  have onto : ∀ (cs out : List Char),
      cs.foldl (fun out c => putOnto out (style.char c)) out =
        (cs.flatMap style.char).reverse ++ out := by
    intro cs
    induction cs with
    | nil => exact fun out => rfl
    | cons c cs ih =>
      intro out
      rw [List.foldl_cons, ih, putOnto, List.flatMap_cons, List.reverse_append,
        List.append_assoc]
  rw [Style.textOnto, onto, Style.quoted]
  simp

mutual

theorem writeOnto_eq (out : List Char) :
    ∀ v, writeOnto style out v = (chars style v).reverse ++ out
  | .null | .bool true | .bool false | .integer _ | .float _ => rfl
  | .text s => Style.textOnto_eq out s
  | .array items => by simp [writeOnto, chars, itemsOnto_eq true _ items]
  | .object members => by simp [writeOnto, chars, membersOnto_eq true _ members]

theorem itemsOnto_eq (first : Bool) (out : List Char) :
    ∀ vs, itemsOnto style first out vs = (itemsChars style first vs).reverse ++ out
  | [] => rfl
  | v :: vs => by
    rw [itemsOnto, itemsOnto_eq false, writeOnto_eq, itemsChars]
    cases first <;> simp [putOnto]

theorem membersOnto_eq (first : Bool) (out : List Char) :
    ∀ ms, membersOnto style first out ms = (membersChars style first ms).reverse ++ out
  | [] => rfl
  | (key, v) :: ms => by
    rw [membersOnto, membersOnto_eq false, writeOnto_eq, Style.textOnto_eq, membersChars]
    cases first <;> simp [putOnto]

end

/-- Writing from the end gives the text in the order of reading. -/
theorem write_eq (style : Style) (v : Json) : write style v = String.ofList (chars style v) := by
  rw [write, writeOnto_eq, List.append_nil, List.reverse_reverse]

/-! ### Strings -/

theorem hexDigit?_hexDigit (n : Nat) :
    ∃ b, encode [hexDigit n] = [b] ∧ Byte.hexDigit? b = some (n % 16) := by
  have digits : ∀ k : Fin 16, (Nat.digitChar k).toNat < 0x80 ∧
      Byte.hexDigit? (.ofNat (Nat.digitChar k).toNat) = some k.val := by decide
  obtain ⟨hlt, hd⟩ := digits ⟨n % 16, Nat.mod_lt _ (by decide)⟩
  refine ⟨_, ?_, hd⟩
  rw [Text.Utf8.encode_cons, hexDigit, encodeChar_of_ascii hlt]
  rfl

/-- The four digits of a unit spell it. -/
theorem spellsUnit_digits {n : Nat} (h : n < 0x10000) :
    SpellsUnit n (encode [hexDigit (n / 0x1000), hexDigit (n / 0x100), hexDigit (n / 0x10),
      hexDigit n]) := by
  obtain ⟨a, ha, hw⟩ := hexDigit?_hexDigit (n / 0x1000)
  obtain ⟨b, hb, hx⟩ := hexDigit?_hexDigit (n / 0x100)
  obtain ⟨c, hc, hy⟩ := hexDigit?_hexDigit (n / 0x10)
  obtain ⟨d, hd, hz⟩ := hexDigit?_hexDigit n
  have hbytes : encode [hexDigit (n / 0x1000), hexDigit (n / 0x100), hexDigit (n / 0x10),
      hexDigit n] = [a, b, c, d] := by
    have happ : ∀ e f g h : Char, encode [e, f, g, h] =
        encode [e] ++ encode [f] ++ encode [g] ++ encode [h] := by
      intros
      simp
    rw [happ, ha, hb, hc, hd]
    rfl
  have hn : n / 0x1000 % 16 * 0x1000 + n / 0x100 % 16 * 0x100 + n / 0x10 % 16 * 0x10 + n % 16 =
      n := by omega
  have hs := SpellsUnit.mk hw hx hy hz
  rwa [hn, ← hbytes] at hs

theorem encode_unitEscape (n : Nat) :
    encode (unitEscape n) = Byte.backslash :: Byte.smallU ::
      encode [hexDigit (n / 0x1000), hexDigit (n / 0x100), hexDigit (n / 0x10), hexDigit n] := by
  have hhead : encode ['\\', 'u'] = [Byte.backslash, Byte.smallU] := by decide
  rw [show unitEscape n = ['\\', 'u'] ++ [hexDigit (n / 0x1000), hexDigit (n / 0x100),
    hexDigit (n / 0x10), hexDigit n] from rfl, Text.Utf8.encode_append, hhead]
  rfl

/-- The numeric escapes of a character spell it. -/
theorem spellsChar_charEscape (c : Char) : SpellsChar c (encode (charEscape c)) := by
  have hv : c.toNat.isValidChar := c.valid
  simp only [Nat.isValidChar] at hv
  simp only [charEscape]
  split
  · next hlt =>
    have he := SpellsEscape.unit (spellsUnit_digits hlt) (by simp [isLead]; omega)
      (by simp [isTrail]; omega)
    rw [Char.ofNat_toNat] at he
    rw [encode_unitEscape]
    exact .escape he
  · next hge =>
    have hm : isLead (0xD800 + (c.toNat - 0x10000) / 0x400) = true := by
      simp [isLead]
      omega
    have hn : isTrail (0xDC00 + (c.toNat - 0x10000) % 0x400) = true := by
      simp [isTrail]
      omega
    have he := SpellsEscape.pair (spellsUnit_digits (by omega)) hm (spellsUnit_digits (by omega)) hn
    have hc : pairChar (0xD800 + (c.toNat - 0x10000) / 0x400)
        (0xDC00 + (c.toNat - 0x10000) % 0x400) = c := by
      rw [pairChar, show 0x10000 + (0xD800 + (c.toNat - 0x10000) / 0x400 - 0xD800) * 0x400 +
        (0xDC00 + (c.toNat - 0x10000) % 0x400 - 0xDC00) = c.toNat by omega, Char.ofNat_toNat]
    rw [hc] at he
    rw [Text.Utf8.encode_append, encode_unitEscape, encode_unitEscape]
    exact .escape he

/-- However a style writes a character, it spells the character. -/
theorem Style.spellsChar (style : Style) (c : Char) : SpellsChar c (encode (style.char c)) := by
  have letter : ∀ {c l : Char} {b : UInt8}, encode ['\\', l] = [Byte.backslash, b] →
      letterEscape? b = some c → SpellsChar c (encode ['\\', l]) :=
    fun hl hb => hl ▸ .escape (.letter hb)
  simp only [Style.char]
  split
  · next h => exact letter (b := Byte.quote) (by decide) (h ▸ rfl)
  split
  · next h => exact letter (b := Byte.backslash) (by decide) (h ▸ rfl)
  split
  · next h => exact letter (b := 0x62) (by decide) (h ▸ rfl)
  split
  · next h => exact letter (b := 0x74) (by decide) (h ▸ rfl)
  split
  · next h => exact letter (b := 0x6E) (by decide) (h ▸ rfl)
  split
  · next h => exact letter (b := 0x66) (by decide) (h ▸ rfl)
  split
  · next h => exact letter (b := 0x72) (by decide) (h ▸ rfl)
  split
  · exact spellsChar_charEscape c
  split
  · exact spellsChar_charEscape c
  · next hq hb _ _ _ _ _ h20 _ =>
    have hp := SpellsChar.plain (Nat.not_lt.mp h20) hq hb
    rwa [← List.append_nil (String.utf8EncodeChar c)] at hp

theorem Style.spellsText (style : Style) (s : String) :
    SpellsText s (encode (style.quoted s)) := by
  have hchars : ∀ cs : List Char, SpellsChars cs (encode (cs.flatMap style.char)) := by
    intro cs
    induction cs with
    | nil => exact .nil
    | cons c cs ih =>
      rw [List.flatMap_cons, Text.Utf8.encode_append]
      exact .cons (style.spellsChar c) ih
  have hs := SpellsText.mk (hchars s.toList)
  have hquote : String.utf8EncodeChar '"' = [Byte.quote] := by decide
  rw [String.ofList_toList] at hs
  rw [Style.quoted, Text.Utf8.encode_cons, Text.Utf8.encode_append, Text.Utf8.encode_cons, hquote]
  exact hs

/-! ### Numbers -/

theorem encode_digits {ds : List Char} (h : ∀ c ∈ ds, c.isDigit = true) :
    encode ds = ds.map fun c => .ofNat c.toNat := by
  induction ds with
  | nil => rfl
  | cons c ds ih =>
    obtain ⟨hc, hds⟩ := List.forall_mem_cons.mp h
    have hlt := Text.isDigit_iff.mp hc
    rw [Text.Utf8.encode_cons, encodeChar_of_ascii (by omega), ih hds]
    rfl

theorem digit?_ofNat {c : Char} (h : c.isDigit = true) :
    Byte.digit? (.ofNat c.toNat) = some (c.toNat - 0x30) := by
  obtain ⟨hlow, hhigh⟩ := Text.isDigit_iff.mp h
  have ht := Text.Utf8.toNat_ofNat_of_lt (show c.toNat < 256 by omega)
  simp [Byte.digit?, UInt8.le_iff_toNat_le, ht, hlow, hhigh]

/-- Digits are all collected when their value stays below the limit. -/
theorem growDigits_encode {limit value count : Nat} {ds : List Char}
    (h : ∀ c ∈ ds, c.isDigit = true) (hlt : Nat.ofDigitChars 10 ds value < limit) :
    growDigits limit value count (encode ds) =
      (Nat.ofDigitChars 10 ds value, count + ds.length, []) := by
  rw [encode_digits h]
  induction ds generalizing value count with
  | nil => rfl
  | cons c ds ih =>
    obtain ⟨hc, hds⟩ := List.forall_mem_cons.mp h
    rw [Nat.ofDigitChars_cons, Nat.mul_comm] at hlt ⊢
    have hle := Text.le_ofDigitChars ds (value * 10 + (c.toNat - '0'.toNat))
    have hnext : value * 10 + (c.toNat - 0x30) < limit := Nat.lt_of_le_of_lt hle hlt
    simp only [List.map_cons, growDigits, digit?_ofNat hc, if_pos hnext]
    have hrest : growDigits limit (value * 10 + (c.toNat - '0'.toNat)) (count + 1) _ = _ :=
      ih hds hlt
    rw [show '0'.toNat = 0x30 from rfl] at hrest ⊢
    rw [hrest, List.length_cons, Nat.add_assoc, Nat.add_comm 1]

theorem digits_encode {ds : List Char} (h : ∀ c ∈ ds, c.isDigit = true) (hne : ds ≠ []) :
    Digits (encode ds) := by
  rw [encode_digits h]
  refine ⟨fun b hb => ?_, by simpa using hne⟩
  obtain ⟨d, hd, rfl⟩ := List.mem_map.mp hb
  rw [digit?_ofNat (h d hd)]
  rfl

/-- Digits spell a whole part, unless a zero comes first that is not the only one. -/
theorem spellsWhole_encode {ds : List Char} (h : ∀ c ∈ ds, c.isDigit = true) (hne : ds ≠ [])
    (hzero : ds = ['0'] ∨ ds.head? ≠ some '0') : SpellsWhole (encode ds) := by
  rcases hzero with rfl | hzero
  · exact SpellsWhole.zero
  · have hdigits := digits_encode h hne
    obtain ⟨c, cs, rfl⟩ := List.exists_cons_of_ne_nil hne
    rw [encode_digits h, List.map_cons] at hdigits ⊢
    refine .digits (fun he => hzero ?_) hdigits
    have hhigh := (Text.isDigit_iff.mp (h c (List.mem_cons_self ..))).2
    have ht := Text.Utf8.toNat_ofNat_of_lt (show c.toNat < 256 by omega)
    exact congrArg some (Char.toNat_inj.mp (ht.symm.trans (congrArg UInt8.toNat he)))

theorem spellsWhole_toDigits (n : Nat) : SpellsWhole (encode (Nat.toDigits 10 n)) := by
  refine spellsWhole_encode (fun c => Text.isDigit_toDigits) Nat.toDigits_ne_nil ?_
  by_cases hn : n = 0
  · exact .inl (hn ▸ rfl)
  · refine .inr fun h => ?_
    obtain ⟨cs, hcs⟩ := List.head?_eq_some_iff.mp h
    exact Text.toDigits_head_ne_zero hn hcs rfl

/-- A whole number of 64 bits is read back from its digits. -/
theorem spellsScalar_digits (negative : Bool) {n : Nat} (h : n < 2 ^ 64) :
    SpellsScalar (wholeNumber negative n)
      ((if negative then [Byte.minus] else []) ++ encode (Nat.toDigits 10 n)) := by
  have hgrow : growDigits Text.wordSize 0 0 (encode (Nat.toDigits 10 n)) =
      (n, (Nat.toDigits 10 n).length, []) := by
    have hval := Nat.ofDigitChars_ten_toDigits (n := n)
    rw [growDigits_encode (fun c => Text.isDigit_toDigits) (by rw [hval]; exact h), hval,
      Nat.zero_add]
  have hs : SpellsNumeral ⟨negative, encode (Nat.toDigits 10 n), none, none⟩ _ :=
    .mk (spellsWhole_toDigits n) .none .none
  rw [List.append_nil, List.append_nil] at hs
  refine .number hs ?_
  simp [Numeral.value?, hgrow, numberBy?]

theorem spellsScalar_integer {n : Int} (hlow : -2 ^ 63 ≤ n) (hhigh : n < 2 ^ 64) :
    SpellsScalar (.integer n) (encode (toString n).toList) := by
  cases n with
  | ofNat n =>
    have hs := spellsScalar_digits false (Int.ofNat_lt.mp hhigh)
    rw [Text.toList_ofNat]
    exact hs
  | negSucc n =>
    have hs := spellsScalar_digits true (show n + 1 < 2 ^ 64 by omega)
    have hv : wholeNumber true (n + 1) = .integer (Int.negSucc n) := by
      have hle : n + 1 ≤ Text.wordSize / 2 := by
        rw [show Text.wordSize / 2 = 2 ^ 63 from rfl]
        omega
      rw [wholeNumber, if_neg (by decide), if_pos ⟨Nat.succ_pos n, hle⟩]
      rfl
    have hminus : String.utf8EncodeChar '-' = [Byte.minus] := by decide
    rw [Text.toList_negSucc, Text.Utf8.encode_cons, hminus, ← hv]
    exact hs

/-! ### Values -/

theorem SpellsScalar.spells {v : Json} {bs : Bytes} (h : SpellsScalar v bs) (depth : Nat) :
    Spells depth v bs := by
  cases depth with
  | zero => exact h
  | succ => exact .inl h

/-- What stands between the parts of a container is a comma, and what stands behind a key is a
colon, with blanks behind it or none. -/
structure Style.Readable (style : Style) : Prop where
  between : ∃ a, Blanks a ∧ encode style.between = Byte.comma :: a
  afterKey : ∃ b, Blanks b ∧ encode style.afterKey = Byte.colon :: b

theorem Style.readable_compact : Style.compact.Readable where
  between := ⟨[], .nil, by decide⟩
  afterKey := ⟨[], .nil, by decide⟩

theorem Style.readable_producer : Style.producer.Readable where
  between := ⟨[0x20], by simp [Blanks]; decide, by decide⟩
  afterKey := ⟨[0x20], by simp [Blanks]; decide, by decide⟩

theorem spells_parts {α β : Type} {part : β → Bytes → Prop} {write : α → List Char} {g : α → β}
    (hs : style.Readable) {xs : List α} (h : ∀ x ∈ xs, part (g x) (encode (write x))) :
    SpellsParts part (xs.map g) (encode (partsChars style write true xs)) := by
  obtain ⟨a, ha, hcomma⟩ := hs.between
  have more : ∀ {xs : List α}, (∀ x ∈ xs, part (g x) (encode (write x))) →
      SpellsMore part (xs.map g) (encode (partsChars style write false xs)) := by
    intro xs h
    induction xs with
    | nil => exact .nil .nil
    | cons x xs ih =>
      obtain ⟨hx, hxs⟩ := List.forall_mem_cons.mp h
      simp only [partsChars, Bool.false_eq_true, if_false, Text.Utf8.encode_append, hcomma]
      exact .cons (z := []) .nil ha hx (ih hxs)
  cases xs with
  | nil => exact .nil .nil
  | cons x xs =>
    obtain ⟨hx, hxs⟩ := List.forall_mem_cons.mp h
    simp only [partsChars, if_true, Text.Utf8.encode_append]
    exact .cons (a := []) .nil hx (more hxs)

theorem spells_member {spells : Json → Bytes → Prop} {m : String × Json} {w : Json}
    (hs : style.Readable) (h : spells w (encode (chars style m.2))) :
    SpellsMember spells (m.1, w) (encode (memberChars style m)) := by
  obtain ⟨b, hb, hcolon⟩ := hs.afterKey
  rw [memberChars, Text.Utf8.encode_append, Text.Utf8.encode_append, hcolon]
  exact .mk (style.spellsText m.1) (a := []) .nil hb h

/-- What is written spells the document, but for its fractions: in place of each of them stands
the one that its text spells. -/
theorem spells_chars (hs : style.Readable) {f : Decimal.Binary64 → Decimal.Binary64} {v : Json}
    {d : Nat} (hd : v.depth ≤ d) (hb : v.Bounded)
    (hf : ∀ x, .float x ∈ leaves v →
      SpellsScalar (.float (f x)) (encode (style.numbers.write x).toList)) :
    Spells d (mapFloats f v) (encode (chars style v)) := by
  induction v generalizing d with
  | null => exact SpellsScalar.null.spells d
  | bool b =>
    cases b with
    | false => exact SpellsScalar.no.spells d
    | true => exact SpellsScalar.yes.spells d
  | integer n =>
    obtain ⟨hlow, hhigh⟩ := hb n (List.mem_singleton.mpr rfl)
    exact (spellsScalar_integer hlow hhigh).spells d
  | float x => exact (hf x (List.mem_singleton.mpr rfl)).spells d
  | text s => exact (SpellsScalar.text (style.spellsText s)).spells d
  | array vs ih =>
    cases d with
    | zero => simp [depth] at hd
    | succ d =>
      have hvs := spells_parts hs fun v hv =>
        ih v hv (depth_array_le_iff.mp hd v hv)
          (fun n hn => hb n (mem_leaves_array.mpr ⟨v, hv, hn⟩))
          (fun x hx => hf x (mem_leaves_array.mpr ⟨v, hv, hx⟩))
      rw [mapFloats_array, chars, itemsChars_eq, Text.Utf8.encode_cons, Text.Utf8.encode_append]
      exact .inr (.array hvs)
  | object ms ih =>
    cases d with
    | zero => simp [depth] at hd
    | succ d =>
      have hms := spells_parts hs fun m hm => spells_member hs <|
        ih m hm (depth_object_le_iff.mp hd m hm)
          (fun n hn => hb n (mem_leaves_object.mpr ⟨m, hm, hn⟩))
          (fun x hx => hf x (mem_leaves_object.mpr ⟨m, hm, hx⟩))
      rw [mapFloats_object, chars, membersChars_eq, Text.Utf8.encode_cons,
        Text.Utf8.encode_append]
      exact .inr (.object hms)

theorem spellsDocument_write (hs : style.Readable) {f : Decimal.Binary64 → Decimal.Binary64}
    {v : Json} (hd : v.depth ≤ maxDepth) (hb : v.Bounded)
    (hf : ∀ x, .float x ∈ leaves v →
      SpellsScalar (.float (f x)) (encode (style.numbers.write x).toList)) :
    SpellsDocument (mapFloats f v) (Text.Utf8.ofString (write style v)) := by
  have hspells := SpellsDocument.mk (a := []) (z := []) .nil (spells_chars hs hd hb hf) .nil
  rw [List.nil_append, List.append_nil] at hspells
  rwa [write_eq, Text.Utf8.ofString_ofList]

/-- A document without fractions is read back from its text in any style that can be read. -/
theorem readTree_write (hs : style.Readable) {v : Json} (hd : v.depth ≤ maxDepth)
    (hb : v.Bounded) (hf : v.Floatless) :
    readTree (Text.Utf8.ofString (write style v)) = .ok v := by
  have hsame : mapFloats id v = v := mapFloats_eq_self_iff.mpr fun x _ => rfl
  have hspells := spellsDocument_write (f := id) hs hd hb fun x hx => absurd hx (hf x)
  rw [hsame] at hspells
  exact readTree_eq_ok_iff.mpr hspells

theorem readTree_compact {v : Json} (hd : v.depth ≤ maxDepth) (hb : v.Bounded)
    (hf : v.Floatless) : readTree (Text.Utf8.ofString v.compact) = .ok v :=
  readTree_write Style.readable_compact hd hb hf

end PipelineWatch.Json
