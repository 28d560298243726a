/-!
UTF-8 over lists of bytes. `next?` reads one character, `decode` a whole list,
and `encode` is the other direction.
-/
namespace PipelineWatch.Text.Utf8

/-- The bytes `80` to `BF`, which follow the first byte of a longer form. -/
def isTail (b : UInt8) : Bool :=
  0x80 ≤ b && b ≤ 0xBF

/-- The six bits that a tail byte carries. -/
def tailBits (b : UInt8) : Nat :=
  b.toNat % 0x40

/-- The first character and what follows it. Forms longer than they have to be,
surrogates and numbers past the last character are none. -/
def next? : List UInt8 → Option (Char × List UInt8)
  | [] => none
  | a :: rest =>
    if a < 0x80 then some (Char.ofNat a.toNat, rest)
    else if 0xC2 ≤ a && a ≤ 0xDF then
      match rest with
      | b :: rest' =>
        if isTail b then some (Char.ofNat (a.toNat % 0x20 * 0x40 + tailBits b), rest') else none
      | _ => none
    else if 0xE0 ≤ a && a ≤ 0xEF then
      match rest with
      | b :: c :: rest' =>
        if isTail b && isTail c && (a != 0xE0 || 0xA0 ≤ b) && (a != 0xED || b ≤ 0x9F) then
          some (Char.ofNat (a.toNat % 0x10 * 0x1000 + tailBits b * 0x40 + tailBits c), rest')
        else none
      | _ => none
    else if 0xF0 ≤ a && a ≤ 0xF4 then
      match rest with
      | b :: c :: d :: rest' =>
        if isTail b && isTail c && isTail d && (a != 0xF0 || 0x90 ≤ b) &&
            (a != 0xF4 || b ≤ 0x8F) then
          some (Char.ofNat (a.toNat % 0x08 * 0x40000 + tailBits b * 0x1000 +
            tailBits c * 0x40 + tailBits d), rest')
        else none
      | _ => none
    else none

/-- Reads characters up to the end. Each takes a byte of the text at least, and
one of `fuel`. `done` holds what was read, last first. -/
def decodeOnto : List UInt8 → List Char → List UInt8 → Option (List Char)
  | _, done, [] => some done.reverse
  | [], _, _ => none
  | _ :: fuel, done, b :: rest =>
    match next? (b :: rest) with
    | some (c, rest') => decodeOnto fuel (c :: done) rest'
    | none => none

/-- The characters of `bytes`, if they are UTF-8. -/
def decode (bytes : List UInt8) : Option (List Char) :=
  decodeOnto bytes [] bytes

/-- The bytes of `cs`. -/
def encode (cs : List Char) : List UInt8 :=
  cs.flatMap String.utf8EncodeChar

/-- The bytes of a text. -/
def ofString (s : String) : List UInt8 :=
  s.toUTF8.data.toList

end PipelineWatch.Text.Utf8
