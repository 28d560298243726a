import PipelineWatch.Text.LetterCase.Tables
import PipelineWatch.Text.Ranges

/-!
The small form of a text. Letters change one by one, with two exceptions: a
dotted capital I leaves its dot behind as a character of its own, and a capital
sigma has another small form at the end of a word.
-/
namespace PipelineWatch.Text

/-- The property Cased: letters of either size, and what goes with them. -/
def isCased (c : Char) : Bool :=
  inRanges c.toNat LetterCase.casedRanges

/-- The property Case_Ignorable: what may stand inside a word between its
letters. -/
def isCaseIgnorable (c : Char) : Bool :=
  inRanges c.toNat LetterCase.ignorableRanges

/-- The small form of `c` on its own. -/
def lowerChar (c : Char) : List Char :=
  if c.toNat < 0x80 then [if 'A' ≤ c ∧ c ≤ 'Z' then Char.ofNat (c.toNat + 32) else c]
  else if c.toNat == 0x130 then ['i', Char.ofNat 0x307]
  else [((image? c.toNat LetterCase.lowerRuns).map Char.ofNat).getD c]

/-- Whether a cased character comes next in `cs`, what is ignorable passed
over. -/
def meetsCased (cs : List Char) : Bool :=
  match cs.dropWhile isCaseIgnorable with
  | [] => false
  | c :: _ => isCased c

/-- The small form of the second list. The first holds what stands before it,
last character first. -/
def lowerAfter (before : List Char) : List Char → List Char
  | [] => []
  | c :: cs =>
    let small :=
      if c.toNat == 0x3A3 then
        if meetsCased before && !meetsCased cs then [Char.ofNat 0x3C2] else [Char.ofNat 0x3C3]
      else lowerChar c
    small ++ lowerAfter (c :: before) cs

/-- The small form of `s`. -/
def toLower (s : String) : String :=
  String.ofList (lowerAfter [] s.toList)

end PipelineWatch.Text
