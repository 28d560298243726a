import PipelineWatch.Event.Key
import PipelineWatch.Proofs.Json.Unambiguous

/-!
The canonical text of a document, the one that is hashed. It keeps to printable ASCII, whatever
the document holds, and the document can be read from it: no character is lost, doubled or
taken for another one by the escapes, and what is read is what the ordinary text would give.
-/
namespace PipelineWatch

open Text.Utf8 (encode ofString)

namespace Json

/-! ### Printable texts -/

/-- All characters are those of printable ASCII. -/
def Printable (cs : List Char) : Prop :=
  ∀ c ∈ cs, 0x20 ≤ c.toNat ∧ c.toNat ≤ 0x7E

instance (cs : List Char) : Decidable (Printable cs) :=
  List.decidableBAll (fun c : Char => 0x20 ≤ c.toNat ∧ c.toNat ≤ 0x7E) cs

theorem printable_nil : Printable [] :=
  nofun

@[simp] theorem printable_cons {c : Char} {cs : List Char} :
    Printable (c :: cs) ↔ (0x20 ≤ c.toNat ∧ c.toNat ≤ 0x7E) ∧ Printable cs :=
  List.forall_mem_cons

@[simp] theorem printable_append {as bs : List Char} :
    Printable (as ++ bs) ↔ Printable as ∧ Printable bs :=
  List.forall_mem_append

/-- Each byte of a printable text is one of its characters. -/
theorem Printable.encode {cs : List Char} (h : Printable cs) :
    ∀ b ∈ encode cs, 0x20 ≤ b ∧ b ≤ 0x7E := by
  induction cs with
  | nil => nofun
  | cons c cs ih =>
    obtain ⟨⟨hlow, hhigh⟩, hcs⟩ := printable_cons.mp h
    have hbyte := Text.Utf8.toNat_ofNat_of_lt (show c.toNat < 256 by omega)
    rw [Text.Utf8.encode_cons, encodeChar_of_ascii (by omega)]
    refine List.forall_mem_cons.mpr ⟨?_, ih hcs⟩
    rw [UInt8.le_iff_toNat_le, UInt8.le_iff_toNat_le, hbyte]
    exact ⟨hlow, hhigh⟩

theorem printable_of_numeric {cs : List Char} (h : ∀ c ∈ cs, Decimal.isNumeric c = true) :
    Printable cs := by
  intro c hc
  have hn := h c hc
  simp only [Decimal.isNumeric, Bool.or_eq_true, beq_iff_eq, Text.isDigit_iff] at hn
  rcases hn with (((hd | rfl) | rfl) | rfl) | rfl
  · omega
  all_goals decide

/-! ### Strings -/

theorem printable_unitEscape (n : Nat) : Printable (unitEscape n) := by
  have digit : ∀ k, 0x20 ≤ (hexDigit k).toNat ∧ (hexDigit k).toNat ≤ 0x7E := by
    have digits : ∀ k : Fin 16,
        0x20 ≤ (Nat.digitChar k).toNat ∧ (Nat.digitChar k).toNat ≤ 0x7E := by
      decide
    exact fun k => digits ⟨k % 16, Nat.mod_lt _ (by decide)⟩
  have head : Printable ['\\', 'u'] := by decide
  exact printable_append.mpr ⟨head, by simp [digit, printable_nil]⟩

theorem printable_charEscape (c : Char) : Printable (charEscape c) := by
  simp only [charEscape]
  split
  · exact printable_unitEscape _
  · exact printable_append.mpr ⟨printable_unitEscape _, printable_unitEscape _⟩

variable {style : Style}

/-- A style that writes nothing of its own but printable ASCII. -/
structure Style.KeepsToAscii (style : Style) : Prop where
  between : Printable style.between
  afterKey : Printable style.afterKey
  asciiOnly : style.asciiOnly = true

theorem Style.KeepsToAscii.char (h : style.KeepsToAscii) (c : Char) : Printable (style.char c) := by
  simp only [Style.char]
  -- seven characters have an escape of their own
  iterate 7
    split
    · decide
  split
  · exact printable_charEscape c
  split
  · exact printable_charEscape c
  · next low high =>
    have below : c.toNat < 0x7F := by simpa [h.asciiOnly] using high
    refine printable_cons.mpr ⟨?_, printable_nil⟩
    omega

theorem Style.KeepsToAscii.quoted (h : style.KeepsToAscii) (s : String) :
    Printable (style.quoted s) := by
  have inside : Printable (s.toList.flatMap style.char) := by
    intro d hd
    obtain ⟨c, -, hd⟩ := List.mem_flatMap.mp hd
    exact h.char c d hd
  have quote : Printable ['"'] := by decide
  exact printable_append.mpr ⟨quote, printable_append.mpr ⟨inside, quote⟩⟩

/-! ### Documents -/

theorem Style.KeepsToAscii.parts (h : style.KeepsToAscii) {α : Type} {part : α → List Char}
    {xs : List α} (hx : ∀ x ∈ xs, Printable (part x)) (first : Bool) :
    Printable (partsChars style part first xs) := by
  induction xs generalizing first with
  | nil => exact printable_nil
  | cons x xs ih =>
    obtain ⟨hx, hxs⟩ := List.forall_mem_cons.mp hx
    refine printable_append.mpr ⟨?_, printable_append.mpr ⟨hx, ih hxs false⟩⟩
    cases first with
    | true => exact printable_nil
    | false => exact h.between

/-- The text of a document in such a style is printable. -/
theorem Style.KeepsToAscii.chars (h : style.KeepsToAscii) {v : Json} (hv : Finite v) :
    Printable (chars style v) := by
  induction v with
  | null => exact (by decide : Printable ['n', 'u', 'l', 'l'])
  | bool b =>
    cases b with
    | true => exact (by decide : Printable ['t', 'r', 'u', 'e'])
    | false => exact (by decide : Printable ['f', 'a', 'l', 's', 'e'])
  | integer n => exact printable_of_numeric (integer_numeric n)
  | float x => exact printable_of_numeric (float_numeric (hv x (List.mem_singleton.mpr rfl)))
  | text s => exact h.quoted s
  | array vs ih =>
    have parts := h.parts (fun v hv' => ih v hv' (hv.item v hv')) true
    have brackets : Printable ['['] ∧ Printable [']'] := by decide
    rw [Json.chars, itemsChars_eq]
    exact printable_append.mpr ⟨brackets.1, printable_append.mpr ⟨parts, brackets.2⟩⟩
  | object ms ih =>
    have member : ∀ m ∈ ms, Printable (memberChars style m) := fun m hm =>
      printable_append.mpr ⟨h.quoted m.1,
        printable_append.mpr ⟨h.afterKey, ih m hm (hv.member m hm)⟩⟩
    have parts := h.parts member true
    have braces : Printable ['\x7b'] ∧ Printable ['\x7d'] := by decide
    rw [Json.chars, membersChars_eq]
    exact printable_append.mpr ⟨braces.1, printable_append.mpr ⟨parts, braces.2⟩⟩

theorem Style.keepsToAscii_producer : Style.producer.KeepsToAscii where
  between := by decide
  afterKey := by decide
  asciiOnly := rfl

end Json

namespace Event

variable {v : Json}

/-- The canonical text is printable, also where the document has fractions. -/
theorem printable_canonicalText (hv : v.Finite) :
    ∀ b ∈ ofString (canonicalText v), 0x20 ≤ b ∧ b ≤ 0x7E := by
  rw [canonicalText, Json.write_eq, Text.Utf8.ofString_ofList]
  exact (Json.Style.keepsToAscii_producer.chars hv.normalize).encode

theorem readTree_canonicalText (hd : v.depth ≤ Json.maxDepth) (hb : v.Bounded)
    (hf : v.Floatless) : Json.readTree (ofString (canonicalText v)) = .ok v.normalize :=
  Json.readTree_write Json.Style.readable_producer (Json.depth_normalize_le hd) hb.normalize
    hf.normalize

/-- What the canonical text of a document is worth. -/
structure Canonical (v : Json) : Prop where
  /-- It keeps to printable ASCII. -/
  printable : ∀ b ∈ ofString (canonicalText v), 0x20 ≤ b ∧ b ≤ 0x7E
  /-- It holds the document with its members sorted, in their order, -/
  tree : Json.readTree (ofString (canonicalText v)) = .ok v.normalize
  /-- which is how a document is read, -/
  canonical : Json.read (ofString (canonicalText v)) = .ok v.normalize
  /-- and what is read from its ordinary text; -/
  compact : Json.read (ofString v.compact) = .ok v.normalize
  /-- it is the very document where that is sorted, as documents in memory are. -/
  exact : v.normalize = v → Json.read (ofString (canonicalText v)) = .ok v

/-- **The canonical text is printable and tells the document**, for every document whose numbers
are whole ones of 64 bits and that nests no deeper than is read. -/
theorem canonicalText_reads_back (hd : v.depth ≤ Json.maxDepth) (hb : v.Bounded)
    (hf : v.Floatless) : Canonical v := by
  have tree := readTree_canonicalText hd hb hf
  have canonical : Json.read (ofString (canonicalText v)) = .ok v.normalize := by
    rw [Json.read, tree]
    exact congrArg Except.ok (Json.normalize_normalize v)
  have compact : Json.read (ofString v.compact) = .ok v.normalize := by
    rw [Json.read, Json.readTree_compact hd hb hf]
    rfl
  refine ⟨printable_canonicalText hf.finite, tree, canonical, compact, fun sorted => ?_⟩
  rw [canonical, sorted]

/-- Quotes, backslashes, control characters, and characters that take two units, in keys and
texts; and the least and the largest number. -/
theorem canonicalText_reads_back_escapes :
    let v : Json := .object
      [("\"\\\u007f", .array [.integer (-2 ^ 63), .integer (2 ^ 64 - 1), .text "\u0000\n\u001f"]),
       ("é😀", .object [("", .text "\t\r😀\u007f")])]
    v.depth ≤ Json.maxDepth ∧ v.Bounded ∧ v.Floatless ∧ Canonical v := by
  intro v
  have depth : v.depth ≤ Json.maxDepth := by decide
  have bounded : v.Bounded := by
    intro n hn
    simp [v, Json.leaves, Json.membersLeaves, Json.itemsLeaves] at hn
    omega
  have floatless : v.Floatless := by
    intro x hx
    simp [v, Json.leaves, Json.membersLeaves, Json.itemsLeaves] at hx
  exact ⟨depth, bounded, floatless, canonicalText_reads_back depth bounded floatless⟩

end Event

end PipelineWatch
