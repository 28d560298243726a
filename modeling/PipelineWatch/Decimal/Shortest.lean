import PipelineWatch.Decimal.Binary64

/-!
The shortest decimal that reads back as a given number. A number stands for all
reals that round to it. On the grids of the powers of ten, coarsest first, the
search takes the first one with a point among those reals, and of that grid the
point nearest to the number.
-/
namespace PipelineWatch.Decimal

/-- `digits * 10 ^ power`, of no sign. -/
structure Scaled where
  digits : Nat
  power : Int
deriving DecidableEq, Repr

/-- Which of two points at the same distance is taken. -/
inductive Tie where
  | up
  | even
deriving DecidableEq, Repr

/-- The reals that round to one magnitude, in quarters of a unit: `value` and
the two ends, which belong to the reals themselves when `closed`. -/
structure Span where
  low : Nat
  value : Nat
  high : Nat
  closed : Bool
deriving DecidableEq, Repr

namespace Span

/-- How many quarters of a unit make one. -/
def quartersPerOne : Nat := 4 * Binary64.unitsPerOne

/-- The reals that round to the magnitude of `x`. The number below a power of
two is only half as far away as the one above it, unless both are among the
smallest. -/
def ofNumber (x : Binary64) : Span :=
  let (m, k) := x.significand
  let step := Nat.pow 2 k
  let below := if m = Binary64.binadeSize ∧ 0 < k then 1 else 2
  { low := (4 * m - below) * step
    value := 4 * m * step
    high := (4 * m + 2) * step
    closed := m % 2 == 0 }

/-- Whether `num / den` quarters lie in the span. -/
def holds (s : Span) (num den : Nat) : Bool :=
  if s.closed then s.low * den ≤ num && num ≤ s.high * den
  else s.low * den < num && num < s.high * den

/-- The point of the grid with step `10 ^ power` that lies in the span nearest
to its value. Only the neighbours of the value have to be looked at. -/
def onGrid? (s : Span) (tie : Tie) (power : Int) : Option Nat :=
  let den := Nat.pow 10 (-power).toNat
  let step := Nat.pow 10 power.toNat * quartersPerOne
  let scaled := s.value * den
  let below := scaled / step
  let above := below + 1
  if s.holds (below * step) den then
    if s.holds (above * step) den then
      let down := scaled - below * step
      let up := above * step - scaled
      let takeAbove :=
        up < down || (up == down && (tie = .up || below % 2 == 1))
      some (if takeAbove then above else below)
    else some below
  else if s.holds (above * step) den then some above
  else none

/-- The first point found on `steps` grids, the coarsest having step
`10 ^ power`. -/
def search (s : Span) (tie : Tie) : Nat → Int → Scaled
  | 0, power => ⟨0, power⟩
  | steps + 1, power =>
    match s.onGrid? tie power with
    | some point => ⟨point, power⟩
    | none => s.search tie steps (power - 1)

end Span

/-- The shortest decimal that reads back as the magnitude of `x`, and of those
the nearest. No grid whose step has more digits than the number comes into
question, and every number lies on the grid of step `10 ^ -1074`. -/
def shortest (tie : Tie) (x : Binary64) : Scaled :=
  let span := Span.ofNumber x
  let top := (Nat.toDigits 10 (span.high / Span.quartersPerOne)).length
  span.search tie (top + 1075) top

end PipelineWatch.Decimal
