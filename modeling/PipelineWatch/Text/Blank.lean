/-!
White space. `isBlank` is the White_Space property of Unicode, and `trim`
takes it off both ends of a text.
-/
namespace PipelineWatch.Text

/-- The characters with the White_Space property. -/
def isBlank (c : Char) : Bool :=
  let n := c.toNat
  (0x09 ≤ n && n ≤ 0x0D) || n == 0x20 || n == 0x85 || n == 0xA0 || n == 0x1680 ||
  (0x2000 ≤ n && n ≤ 0x200A) || n == 0x2028 || n == 0x2029 || n == 0x202F ||
  n == 0x205F || n == 0x3000

/-- What is left of `cs` once the blanks in front are gone. -/
def trimFront (cs : List Char) : List Char :=
  cs.dropWhile isBlank

/-- What is left of `cs` once the blanks at both ends are gone. -/
def trimChars (cs : List Char) : List Char :=
  (trimFront (trimFront cs).reverse).reverse

/-- `s` without the blanks at its ends. -/
def trim (s : String) : String :=
  String.ofList (trimChars s.toList)

/-- Nothing but blanks, or nothing at all. -/
def isBlankText (s : String) : Bool :=
  s.toList.all isBlank

/-- `c` with the letters `A` to `Z` made small and all else kept. -/
def lowerAscii (c : Char) : Char :=
  if 'A' ≤ c ∧ c ≤ 'Z' then Char.ofNat (c.toNat + 32) else c

/-- `s` with the letters `A` to `Z` made small and all else kept. -/
def toLowerAscii (s : String) : String :=
  String.ofList (s.toList.map lowerAscii)

end PipelineWatch.Text
