import PipelineWatch.Text.Composition.Tables
import PipelineWatch.Text.Ranges

/-!
The composed form of a text, one of many spellings of the same letters and marks
that all have in common. Letters are taken apart from their marks, marks that
do not touch are put in the order of their classes, and what can be one
character is made one again.
-/
namespace PipelineWatch.Text

/-- The class of a mark. Marks of different classes do not touch each other;
what is no mark, and what stays where it is, has class zero. -/
def combiningClass (c : Char) : Nat :=
  (rangeValue? c.toNat Composition.classRanges).getD 0

namespace Composition

/-- The two characters that `n` stands for. -/
def halves? (n : Nat) : List (Nat × Nat × Nat) → Option (Nat × Nat)
  | [] => none
  | (whole, head, mark) :: rest =>
    if n < whole then none else if n = whole then some (head, mark) else halves? n rest

/-- The one character that stands for two. -/
def whole? (head mark : Nat) : List (Nat × Nat × Nat) → Option Nat
  | [] => none
  | (whole, head', mark') :: rest =>
    if head = head' ∧ mark = mark' then some whole else whole? head mark rest

/-- A letter and the marks that are one with it, of which it has `count` at
most. -/
def takeApart : Nat → Nat → List Nat
  | 0, n => [n]
  | count + 1, n =>
    match halves? n pairs with
    | some (head, mark) => takeApart count head ++ [mark]
    | none => [n]

/-- The letters of a syllable of Hangul: one that starts it, a vowel, and in
most of them one that ends it. -/
def takeSyllableApart (place : Nat) : List Nat :=
  let start := 0x1100 + place / 588
  let vowel := 0x1161 + place % 588 / 28
  if place % 28 = 0 then [start, vowel] else [start, vowel, 0x11A7 + place % 28]

/-- `c` without what is one with it, and that behind it. No character has more
than three marks of its own. -/
def decompose (c : Char) : List Char :=
  let n := c.toNat
  if n < 0xC0 then [c]
  else if 0xAC00 ≤ n ∧ n < 0xD7A4 then (takeSyllableApart (n - 0xAC00)).map Char.ofNat
  else (takeApart 3 n).map Char.ofNat

/-- A text read backwards and `c` before it, where `c` passes all marks of a
higher class. -/
def settle (c : Char) : List Char → List Char
  | [] => [c]
  | d :: ds =>
    if 0 < combiningClass c ∧ combiningClass c < combiningClass d then d :: settle c ds
    else c :: d :: ds

/-- The text with its marks in order of their classes. Those of one class keep
their order. -/
def order (cs : List Char) : List Char :=
  (cs.foldl (fun done c => settle c done) []).reverse

/-- The one syllable of Hangul that stands for two pieces. -/
def syllable? (head tail : Nat) : Option Nat :=
  if 0x1100 ≤ head ∧ head < 0x1113 ∧ 0x1161 ≤ tail ∧ tail < 0x1176 then
    some (0xAC00 + ((head - 0x1100) * 21 + (tail - 0x1161)) * 28)
  else if 0xAC00 ≤ head ∧ head < 0xD7A4 ∧ (head - 0xAC00) % 28 = 0 ∧
      0x11A7 < tail ∧ tail < 0x11C3 then
    some (head + (tail - 0x11A7))
  else none

/-- The one character that stands for two, if there is one. Nothing below `300`
is second. -/
def join? (head tail : Char) : Option Char :=
  if tail.toNat < 0x300 then none
  else
    ((syllable? head.toNat tail.toNat).or (whole? head.toNat tail.toNat pairs)).map Char.ofNat

/-- A text that is being composed: what is finished, last character first, the
letter that may still take marks, and the marks behind it that it did not take,
last first. -/
structure Cluster where
  done : List Char
  letter : Option Char
  marks : List Char

/-- All of a text, last character first. -/
def Cluster.reversed (k : Cluster) : List Char :=
  k.marks ++ (k.letter.toList ++ k.done)

/-- Whether `c` reaches the letter: no mark in between is of its class or a
higher one. -/
def Cluster.reaches (k : Cluster) (c : Char) : Bool :=
  match k.marks with
  | [] => true
  | mark :: _ => combiningClass mark < combiningClass c

/-- The one character that the letter and `c` make. -/
def Cluster.joined? (k : Cluster) (c : Char) : Option Char :=
  if k.reaches c then k.letter.bind fun letter => join? letter c else none

/-- One more character. -/
def Cluster.add (k : Cluster) (c : Char) : Cluster :=
  match k.joined? c with
  | some whole => { k with letter := some whole }
  | none =>
    if combiningClass c = 0 then ⟨k.reversed, some c, []⟩ else { k with marks := c :: k.marks }

/-- The text with letters and marks made one. -/
def compose (cs : List Char) : List Char :=
  (cs.foldl Cluster.add ⟨[], none, []⟩).reversed.reverse

end Composition

/-- The composed form of a text. -/
def composed (cs : List Char) : List Char :=
  Composition.compose (Composition.order (cs.flatMap Composition.decompose))

end PipelineWatch.Text
