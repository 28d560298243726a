import PipelineWatch.Json.Reader

/-!
Which texts spell which documents: a grammar, told without a reader. A document has
many texts, since blanks, escapes and the ways of writing a number are free, but a
text spells one document at most. Containers nest to a given depth; a number that is
too large for a float has no value, and so no text of it spells anything.
-/
namespace PipelineWatch.Json

/-- Nothing but blanks. -/
def Blanks (bs : Bytes) : Prop :=
  ∀ b ∈ bs, Byte.isBlank b = true

/-- Digits, one at least. -/
structure Digits (bs : Bytes) : Prop where
  digit : ∀ b ∈ bs, (Byte.digit? b).isSome = true
  ne_nil : bs ≠ []

/-! ### Numbers -/

/-- The parts of a number, its digits as they stand. The digits of an exponent come
with whether it is negative. -/
structure Numeral where
  negative : Bool
  whole : Bytes
  fraction : Option Bytes
  exponent : Option (Bool × Bytes)

/-- The whole part of a number: a zero, or digits that do not start with one. -/
inductive SpellsWhole : Bytes → Prop where
  | zero : SpellsWhole [Byte.zero]
  | digits {b : UInt8} {bs : Bytes} : b ≠ Byte.zero → Digits (b :: bs) → SpellsWhole (b :: bs)

/-- The fraction of a number, if there is one, with its point. -/
inductive SpellsFraction : Option Bytes → Bytes → Prop where
  | none : SpellsFraction none []
  | some {ds : Bytes} : Digits ds → SpellsFraction (some ds) (Byte.point :: ds)

/-- The exponent of a number, if there is one, with its mark and maybe a sign. -/
inductive SpellsExponent : Option (Bool × Bytes) → Bytes → Prop where
  | none : SpellsExponent none []
  | bare {mark : UInt8} {ds : Bytes} : Byte.isExponentMark mark = true → Digits ds →
      SpellsExponent (some (false, ds)) (mark :: ds)
  | plus {mark : UInt8} {ds : Bytes} : Byte.isExponentMark mark = true → Digits ds →
      SpellsExponent (some (false, ds)) (mark :: Byte.plus :: ds)
  | minus {mark : UInt8} {ds : Bytes} : Byte.isExponentMark mark = true → Digits ds →
      SpellsExponent (some (true, ds)) (mark :: Byte.minus :: ds)

/-- A number by its parts. -/
inductive SpellsNumeral : Numeral → Bytes → Prop where
  | mk {n : Numeral} {fraction exponent : Bytes} : SpellsWhole n.whole →
      SpellsFraction n.fraction fraction → SpellsExponent n.exponent exponent →
      SpellsNumeral n
        ((if n.negative then [Byte.minus] else []) ++ n.whole ++ fraction ++ exponent)

/-- `significand * 10 ^ scale` with an exponent behind it. One whose digits outgrow 31
bits leaves a zero, or nothing at all. -/
def scaledBy? (negative : Bool) (significand : Nat) (scale : Int) :
    Option (Bool × Bytes) → Option Json
  | none => (scaled? significand scale).map (signed negative)
  | some (down, ds) =>
    match growDigits exponentLimit 0 0 ds with
    | (power, _, []) =>
      (scaled? significand (if down then scale - power else scale + power)).map (signed negative)
    | (_, _, _ :: _) =>
      if significand ≠ 0 ∧ down = false then none else some (signed negative .zero)

/-- The value of a number whose whole part has left `significand` and `beyond` digits that
did not fit. Such a digit moves the point; one of the fraction is dropped. -/
def numberBy? (negative : Bool) (significand beyond : Nat) :
    Option Bytes → Option (Bool × Bytes) → Option Json
  | none, none =>
    if beyond = 0 then some (wholeNumber negative significand)
    else scaledBy? negative significand beyond none
  | none, some exponent => scaledBy? negative significand beyond (some exponent)
  | some fraction, exponent =>
    let (significand, places, _) := growDigits Text.wordSize significand 0 fraction
    scaledBy? negative significand (beyond - places) exponent

/-- The value of a number, unless it is out of range: the digits that fit into 64 bits, at
the place of the point. -/
def Numeral.value? (n : Numeral) : Option Json :=
  let (significand, _, beyond) := growDigits Text.wordSize 0 0 n.whole
  numberBy? n.negative significand beyond.length n.fraction n.exponent

/-! ### Strings -/

/-- Four digits of base sixteen and their value. -/
inductive SpellsUnit : Nat → Bytes → Prop where
  | mk {a b c d : UInt8} {w x y z : Nat} : Byte.hexDigit? a = some w → Byte.hexDigit? b = some x →
      Byte.hexDigit? c = some y → Byte.hexDigit? d = some z →
      SpellsUnit (w * 0x1000 + x * 0x100 + y * 0x10 + z) [a, b, c, d]

/-- The escapes of a character, from behind the backslash. The numeric escape of a half of
a pair stands for nothing without the other half. -/
inductive SpellsEscape : Char → Bytes → Prop where
  | letter {b : UInt8} {c : Char} : letterEscape? b = some c → SpellsEscape c [b]
  | unit {n : Nat} {bs : Bytes} : SpellsUnit n bs → isLead n = false → isTrail n = false →
      SpellsEscape (.ofNat n) (Byte.smallU :: bs)
  | pair {m n : Nat} {bs cs : Bytes} : SpellsUnit m bs → isLead m = true → SpellsUnit n cs →
      isTrail n = true →
      SpellsEscape (pairChar m n) (Byte.smallU :: bs ++ Byte.backslash :: Byte.smallU :: cs)

/-- A character inside a string: as it is, unless it may not stand so, or as one of its
escapes. -/
inductive SpellsChar : Char → Bytes → Prop where
  | plain {c : Char} : 0x20 ≤ c.toNat → c ≠ '"' → c ≠ '\\' →
      SpellsChar c (String.utf8EncodeChar c)
  | escape {c : Char} {bs : Bytes} : SpellsEscape c bs → SpellsChar c (Byte.backslash :: bs)

/-- The characters of a string, one after the other. -/
inductive SpellsChars : List Char → Bytes → Prop where
  | nil : SpellsChars [] []
  | cons {c : Char} {cs : List Char} {bs more : Bytes} : SpellsChar c bs → SpellsChars cs more →
      SpellsChars (c :: cs) (bs ++ more)

/-- A string with its quotes. -/
inductive SpellsText : String → Bytes → Prop where
  | mk {cs : List Char} {bs : Bytes} : SpellsChars cs bs →
      SpellsText (.ofList cs) (Byte.quote :: bs ++ [Byte.quote])

/-! ### Values -/

/-- A value that stands by itself. -/
inductive SpellsScalar : Json → Bytes → Prop where
  | null : SpellsScalar .null [0x6E, 0x75, 0x6C, 0x6C]
  | yes : SpellsScalar (.bool true) [0x74, 0x72, 0x75, 0x65]
  | no : SpellsScalar (.bool false) [0x66, 0x61, 0x6C, 0x73, 0x65]
  | number {n : Numeral} {v : Json} {bs : Bytes} : SpellsNumeral n bs → n.value? = some v →
      SpellsScalar v bs
  | text {s : String} {bs : Bytes} : SpellsText s bs → SpellsScalar (.text s) bs

section

variable {α : Type}

/-- What follows a part of a container: more parts, each behind a comma. -/
inductive SpellsMore (part : α → Bytes → Prop) : List α → Bytes → Prop where
  | nil {z : Bytes} : Blanks z → SpellsMore part [] z
  | cons {z a bs more : Bytes} {x : α} {xs : List α} : Blanks z → Blanks a → part x bs →
      SpellsMore part xs more →
      SpellsMore part (x :: xs) (z ++ Byte.comma :: (a ++ (bs ++ more)))

/-- The parts of a container, with commas between them. -/
inductive SpellsParts (part : α → Bytes → Prop) : List α → Bytes → Prop where
  | nil {a : Bytes} : Blanks a → SpellsParts part [] a
  | cons {a bs more : Bytes} {x : α} {xs : List α} : Blanks a → part x bs →
      SpellsMore part xs more → SpellsParts part (x :: xs) (a ++ (bs ++ more))

end

/-- A member of an object: a key, a colon and a value. -/
inductive SpellsMember (spells : Json → Bytes → Prop) : String × Json → Bytes → Prop where
  | mk {key : String} {v : Json} {ks a b bs : Bytes} : SpellsText key ks → Blanks a → Blanks b →
      spells v bs → SpellsMember spells (key, v) (ks ++ (a ++ Byte.colon :: (b ++ bs)))

/-- A container, of values that `spells` tells the texts of. -/
inductive SpellsContainer (spells : Json → Bytes → Prop) : Json → Bytes → Prop where
  | array {vs : List Json} {bs : Bytes} : SpellsParts spells vs bs →
      SpellsContainer spells (.array vs) (Byte.openBracket :: bs ++ [Byte.closeBracket])
  | object {ms : Members} {bs : Bytes} : SpellsParts (SpellsMember spells) ms bs →
      SpellsContainer spells (.object ms) (Byte.openBrace :: bs ++ [Byte.closeBrace])

/-- A value with at most `depth` containers inside each other. -/
def Spells : Nat → Json → Bytes → Prop
  | 0, v, bs => SpellsScalar v bs
  | depth + 1, v, bs => SpellsScalar v bs ∨ SpellsContainer (Spells depth) v bs

/-- A whole text: a value with blanks around it. -/
inductive SpellsDocument : Json → Bytes → Prop where
  | mk {v : Json} {a bs z : Bytes} : Blanks a → Spells maxDepth v bs → Blanks z →
      SpellsDocument v (a ++ (bs ++ z))

end PipelineWatch.Json
