/-!
Sets of characters and what belongs to them, as closed ranges of their numbers
in rising order. A search ends at the first range that starts above the number.
-/
namespace PipelineWatch.Text

/-- Whether `n` lies in one of the ranges. -/
def inRanges (n : Nat) : List (Nat × Nat) → Bool
  | [] => false
  | (first, last) :: rest => first ≤ n && (n ≤ last || inRanges n rest)

/-- The value of the range in which `n` lies. -/
def rangeValue? (n : Nat) : List (Nat × Nat × Nat) → Option Nat
  | [] => none
  | (first, last, value) :: rest =>
    if n < first then none else if n ≤ last then some value else rangeValue? n rest

/-- Numbers at one distance from their images: every `step`-th one from `first`
to `last`, where `image` is that of the first. -/
structure Run where
  first : Nat
  last : Nat
  step : Nat
  image : Nat

/-- The image of `n` in the first run that it is in. -/
def image? (n : Nat) : List Run → Option Nat
  | [] => none
  | run :: rest =>
    if n < run.first then none
    else if n ≤ run.last && (n - run.first) % run.step == 0 then
      some (run.image + (n - run.first))
    else image? n rest

end PipelineWatch.Text
