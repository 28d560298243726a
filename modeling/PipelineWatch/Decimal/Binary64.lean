/-!
Binary floating-point numbers of 64 bits. The number with magnitude word
`k * 2 ^ 52 + m` is `m * 2 ^ k` units of `2 ^ -1074`, so a larger word means a
larger magnitude, and rounding a ratio is one division. All arithmetic is exact
on natural numbers up to that division; nothing here calls the processor's own.
-/
namespace PipelineWatch.Decimal

/-- A number by its 64 bits: the sign in front of the magnitude word. -/
structure Binary64 where
  bits : UInt64
deriving DecidableEq, Repr

namespace Binary64

/-- How many units make one. -/
def unitsPerOne : Nat := Nat.pow 2 1074

/-- How many numbers there are from one power of two up to the next. -/
def binadeSize : Nat := Nat.pow 2 52

/-- The word that is nothing but the sign. -/
def signWord : Nat := Nat.pow 2 63

/-- The magnitude word of infinity. Larger ones are no numbers. -/
def infinity : Nat := 0x7FF * binadeSize

/-- The number with this sign and magnitude word. -/
def ofParts (negative : Bool) (magnitude : Nat) : Binary64 :=
  ⟨UInt64.ofNat (if negative then signWord + magnitude else magnitude)⟩

/-- Whether the sign is set. Zero has a sign as well. -/
def negative (x : Binary64) : Bool :=
  signWord ≤ x.bits.toNat

/-- The word below the sign. -/
def magnitude (x : Binary64) : Nat :=
  x.bits.toNat % signWord

/-- Neither infinite nor outside the numbers. -/
def isFinite (x : Binary64) : Bool :=
  x.magnitude < infinity

/-- Either zero. -/
def isZero (x : Binary64) : Bool :=
  x.magnitude == 0

/-- `m` and `k` of the magnitude `m * 2 ^ k`, in units. Below the first power
of two that needs all 53 bits, `k` is zero and `m` as small as it has to be. -/
def significand (x : Binary64) : Nat × Nat :=
  let word := x.magnitude
  if word < binadeSize then (word, 0)
  else (binadeSize + word % binadeSize, word / binadeSize - 1)

/-- The magnitude in units. -/
def units (x : Binary64) : Nat :=
  x.significand.1 * Nat.pow 2 x.significand.2

/-- `num / den` to the nearest whole number, a half to the even one. -/
def roundDiv (num den : Nat) : Nat :=
  let q := num / den
  let r := num % den
  if 2 * r < den then q
  else if den < 2 * r then q + 1
  else if q % 2 = 0 then q
  else q + 1

/-- The magnitude word nearest to `num / den`, a half to the even one. A
significand that rounds up to `2 ^ 53` carries into the next word by itself. -/
def nearest (num den : Nat) : Nat :=
  let scaled := num * unitsPerOne
  let k := (scaled / den).log2 - 52
  min (k * binadeSize + roundDiv scaled (den * Nat.pow 2 k)) infinity

/-- The number nearest to `num / den`, with the given sign. -/
def ofRatio (negative : Bool) (num den : Nat) : Binary64 :=
  ofParts negative (nearest num den)

/-- The number nearest to `n`. -/
def ofNat (n : Nat) : Binary64 :=
  ofRatio false n 1

/-- The product, rounded once. Both numbers are to be finite. -/
def mul (x y : Binary64) : Binary64 :=
  ofRatio (x.negative != y.negative) (x.units * y.units) (unitsPerOne * unitsPerOne)

/-- The quotient, rounded once. Both numbers are to be finite, and the second
one no zero. -/
def div (x y : Binary64) : Binary64 :=
  ofRatio (x.negative != y.negative) x.units y.units

/-- The number with the other sign. -/
def neg (x : Binary64) : Binary64 :=
  ofParts (!x.negative) x.magnitude

/-- Zero without its sign set. -/
def zero : Binary64 :=
  ofParts false 0

end Binary64

end PipelineWatch.Decimal
