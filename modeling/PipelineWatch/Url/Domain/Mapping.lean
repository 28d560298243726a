import PipelineWatch.Text.Blank
import PipelineWatch.Url.Domain.Kept
import PipelineWatch.Url.Domain.Moved
import PipelineWatch.Url.Domain.Spelled

/-!
What becomes of a character in the name of a host. Most stay as they are, capitals
and forms of other letters become those, some leave no trace, and the rest may
not be there.
-/
namespace PipelineWatch.Url.Domain

/-- The characters that leave no trace, in rising ranges. -/
def droppedRanges : List (Nat × Nat) :=
  [(0xAD, 0xAD), (0x34F, 0x34F), (0x115F, 0x1160), (0x17B4, 0x17B5), (0x180B, 0x180F),
   (0x200B, 0x200B), (0x2060, 0x2064), (0x206A, 0x206F), (0x3164, 0x3164), (0xFE00, 0xFE0F),
   (0xFEFF, 0xFEFF), (0xFFA0, 0xFFA0), (0x1BCA0, 0x1BCA3), (0x1D173, 0x1D17A),
   (0xE0100, 0xE01EF)]

/-- Whether `c` stays as it is. -/
def isKept (c : Char) : Bool :=
  c.toNat < 0x80 || Text.inRanges c.toNat keptRanges

/-- The text of a character in a list that rises. -/
def spelling? (n : Nat) : List (Nat × List Nat) → Option (List Nat)
  | [] => none
  | (m, text) :: rest =>
    if n < m then none else if n = m then some text else spelling? n rest

/-- What `c` becomes, if it may be in a name. -/
def mapped? (c : Char) : Option (List Char) :=
  let n := c.toNat
  if n < 0x80 then some [Text.lowerAscii c]
  else if Text.inRanges n keptRanges then some [c]
  else if Text.inRanges n droppedRanges then some []
  else
    match Text.image? n movedRuns with
    | some m => some [Char.ofNat m]
    | none => (spelling? n spellings).map (·.map Char.ofNat)

end PipelineWatch.Url.Domain
