import PipelineWatch.Text.Composition
import PipelineWatch.Text.Direction
import PipelineWatch.Text.Joining
import PipelineWatch.Text.Mark
import PipelineWatch.Url.Domain.Mapping
import PipelineWatch.Url.Punycode

/-!
Labels, the parts of the name of a host. Each has a written form in ASCII and
the characters that it means. The two differ where a character is beyond
ASCII: the label is then written in Punycode behind `xn--`.
-/
namespace PipelineWatch.Url

/-- A part of a name. -/
structure Label where
  written : List Char
  meant : List Char
deriving DecidableEq, Repr

namespace Label

/-- Whether all of a text is ASCII. -/
def isPlain (cs : List Char) : Bool :=
  cs.all (·.toNat < 0x80)

/-- The mark of a label in Punycode. -/
def codeMark : List Char := ['x', 'n', '-', '-']

/-- The longest text in Punycode that is read. -/
def maxCode : Nat := 2000

/-- The longest label with characters beyond ASCII. -/
def maxMeant : Nat := 1000

/-- What a text in Punycode means in a label: something with characters beyond
ASCII, not too long, in a form that names keep as it is. -/
def decode? (code : List Char) : Option (List Char) := do
  guard (isPlain code && code.length ≤ maxCode)
  let cs ← Punycode.decode code
  guard (!isPlain cs && cs.length ≤ maxMeant && cs.all Domain.isKept && Text.composed cs == cs)
  return cs

/-- The label that a part of a name writes. -/
def read? (cs : List Char) : Option Label :=
  if codeMark.isPrefixOf cs then
    (decode? (cs.drop codeMark.length)).map fun meant => ⟨cs, meant⟩
  else if isPlain cs then some ⟨cs, cs⟩
  else if cs.length ≤ maxMeant then some ⟨codeMark ++ Punycode.encode cs, cs⟩
  else none

/-- Whether the text, read away from a place in a word, comes to a letter that
joins towards it. -/
def comesToJoin (side : Text.Joining) (cs : List Char) : Bool :=
  match cs.dropWhile fun c => Text.joining c == .through with
  | [] => false
  | c :: _ => Text.joining c == side || Text.joining c == .both

/-- Whether a joiner may stand between `before`, last character first, and
`after`. Both kinds may follow a mark that takes the vowel of a letter away, and
the one that parts letters may stand between two that would join. -/
def mayJoin (c : Char) (before after : List Char) : Bool :=
  match before with
  | [] => false
  | last :: _ =>
    Text.combiningClass last == 9 ||
      (c.toNat == 0x200C && comesToJoin .left before && comesToJoin .right after)

/-- Whether all joiners of `cs` may stand where they do, behind `before`. -/
def joinersFit (before : List Char) : List Char → Bool
  | [] => true
  | c :: cs =>
    ((c.toNat != 0x200C && c.toNat != 0x200D) || mayJoin c before cs) && joinersFit (c :: before) cs

/-- Whether what a label means may be a label: no mark in front and the joiners in
place. -/
def isSound (label : Label) : Bool :=
  !(label.meant.head?.any Text.isMark) && joinersFit [] label.meant

/-- Whether a label has something in it that runs from right to left. -/
def hasBackward (label : Label) : Bool :=
  label.meant.any fun c => (Text.direction c).isBackward

/-- What may stand in a label that runs from left to right. -/
def fitsForward : Text.Direction → Bool
  | .leftToRight | .europeanNumber | .europeanSeparator | .europeanTerminator
  | .commonSeparator | .nonspacingMark | .boundaryNeutral | .otherNeutral => true
  | _ => false

/-- What may stand in a label that runs from right to left. -/
def fitsBackward : Text.Direction → Bool
  | .rightToLeft | .arabicLetter | .arabicNumber | .europeanNumber | .europeanSeparator
  | .europeanTerminator | .commonSeparator | .nonspacingMark | .boundaryNeutral
  | .otherNeutral => true
  | _ => false

/-- The last class of a label that is none of marks. -/
def lastDirection? (classes : List Text.Direction) : Option Text.Direction :=
  classes.reverse.find? (· != .nonspacingMark)

/-- Whether a label of these classes keeps its place and its order in a line that
mixes directions. The first character gives the label its direction, what does
not fit in is nowhere, the end is as firm as the start, and there are no two kinds
of digits. -/
def isFirm (classes : List Text.Direction) : Bool :=
  match classes with
  | [] => true
  | .leftToRight :: _ =>
    classes.all fitsForward &&
      match lastDirection? classes with
      | some .leftToRight | some .europeanNumber => true
      | _ => false
  | .rightToLeft :: _ | .arabicLetter :: _ =>
    classes.all fitsBackward &&
      (match lastDirection? classes with
      | some .rightToLeft | some .arabicLetter | some .arabicNumber | some .europeanNumber => true
      | _ => false) &&
      !(classes.contains .europeanNumber && classes.contains .arabicNumber)
  | _ => false

end Label

end PipelineWatch.Url
