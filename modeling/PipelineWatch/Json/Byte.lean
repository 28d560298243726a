/-!
The bytes that mean something in the text of a document.
-/
namespace PipelineWatch.Json.Byte

/-- The end of a line. -/
abbrev lineFeed : UInt8 := 0x0A

abbrev quote : UInt8 := 0x22
abbrev plus : UInt8 := 0x2B
abbrev comma : UInt8 := 0x2C
abbrev minus : UInt8 := 0x2D
abbrev point : UInt8 := 0x2E
abbrev zero : UInt8 := 0x30
abbrev colon : UInt8 := 0x3A
abbrev openBracket : UInt8 := 0x5B
abbrev backslash : UInt8 := 0x5C
abbrev closeBracket : UInt8 := 0x5D
abbrev smallF : UInt8 := 0x66
abbrev smallN : UInt8 := 0x6E
abbrev smallT : UInt8 := 0x74
abbrev smallU : UInt8 := 0x75
abbrev openBrace : UInt8 := 0x7B
abbrev closeBrace : UInt8 := 0x7D

/-- The four bytes that may stand between the tokens of a document. -/
def isBlank (b : UInt8) : Bool :=
  b == 0x20 || b == 0x0A || b == 0x09 || b == 0x0D

/-- The letter that leads an exponent. -/
def isExponentMark (b : UInt8) : Bool :=
  b == 0x65 || b == 0x45

/-- The value of an ASCII digit. -/
def digit? (b : UInt8) : Option Nat :=
  if 0x30 ≤ b && b ≤ 0x39 then some (b.toNat - 0x30) else none

/-- The value of a digit of base sixteen. -/
def hexDigit? (b : UInt8) : Option Nat :=
  if 0x30 ≤ b && b ≤ 0x39 then some (b.toNat - 0x30)
  else if 0x41 ≤ b && b ≤ 0x46 then some (b.toNat - 0x37)
  else if 0x61 ≤ b && b ≤ 0x66 then some (b.toNat - 0x57)
  else none

end PipelineWatch.Json.Byte
