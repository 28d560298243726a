import PipelineWatch.Text.Direction.Tables
import PipelineWatch.Text.Ranges

/-!
The direction in which a character is written, as the layout of lines that mix
both directions sees it.
-/
namespace PipelineWatch.Text

/-- The classes of characters by direction. -/
inductive Direction where
  | leftToRight
  | rightToLeft
  | arabicLetter
  | arabicNumber
  | europeanNumber
  | europeanSeparator
  | europeanTerminator
  | commonSeparator
  | nonspacingMark
  | boundaryNeutral
  | otherNeutral
  | layout
deriving DecidableEq, Repr

/-- The ranges of each class but the first, which has all that is in none. -/
def directionRanges : List (Direction × List (Nat × Nat)) :=
  [(.europeanNumber, Direction.europeanNumberRanges),
   (.europeanSeparator, Direction.europeanSeparatorRanges),
   (.europeanTerminator, Direction.europeanTerminatorRanges),
   (.commonSeparator, Direction.commonSeparatorRanges),
   (.rightToLeft, Direction.rightToLeftRanges),
   (.arabicLetter, Direction.arabicLetterRanges),
   (.arabicNumber, Direction.arabicNumberRanges),
   (.nonspacingMark, Direction.nonspacingMarkRanges),
   (.boundaryNeutral, Direction.boundaryNeutralRanges),
   (.otherNeutral, Direction.otherNeutralRanges),
   (.layout, Direction.layoutRanges)]

/-- The class of `c`. -/
def direction (c : Char) : Direction :=
  match directionRanges.find? fun (_, ranges) => inRanges c.toNat ranges with
  | some (found, _) => found
  | none => .leftToRight

/-- Whether a class makes the text it stands in run from right to left. -/
def Direction.isBackward : Direction → Bool
  | .rightToLeft | .arabicLetter | .arabicNumber => true
  | _ => false

end PipelineWatch.Text
