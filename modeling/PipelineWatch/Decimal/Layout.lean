import PipelineWatch.Decimal.Shortest

/-!
How a floating-point number is written. The digits are always the shortest ones
that read back; a layout says where positional notation ends, how the exponent
looks, and which way a tie between two shortest forms goes.
-/
namespace PipelineWatch.Decimal

/-- The choices that a way of writing numbers makes. -/
structure Layout where
  /-- The least exponent that is written positionally. -/
  positionalFrom : Int
  /-- The least exponent above it that is not. -/
  positionalBelow : Int
  /-- The least number of digits of an exponent. -/
  exponentWidth : Nat
  /-- The choice between two shortest forms at one distance. -/
  tie : Tie
deriving DecidableEq, Repr

/-- The layout of compact documents: `1e-5` is the least power of ten that is
written positionally, and an exponent has no digits to spare. -/
def Layout.compact : Layout where
  positionalFrom := -5
  positionalBelow := 16
  exponentWidth := 1
  tie := .even

/-- The layout of the producers of events: `0.0001` is the least power of ten
that is written positionally, and an exponent has two digits at least. -/
def Layout.producer : Layout where
  positionalFrom := -4
  positionalBelow := 16
  exponentWidth := 2
  tie := .up

/-- `zeros n` is a row of `n` zeros. -/
def zeros (n : Nat) : List Char :=
  List.replicate n '0'

/-- A digit string `d₁d₂…` read as `d₁.d₂… * 10 ^ exponent`, written without an
exponent. At least one digit stands on each side of the point. -/
def positional (digits : List Char) (exponent : Int) : List Char :=
  if exponent < 0 then
    '0' :: '.' :: zeros (-exponent - 1).toNat ++ digits
  else
    let whole := exponent.toNat + 1
    if digits.length ≤ whole then
      digits ++ zeros (whole - digits.length) ++ ['.', '0']
    else
      digits.take whole ++ '.' :: digits.drop whole

/-- The same digits written with an exponent. A single digit has no point
behind it. -/
def scientific (width : Nat) (digits : List Char) (exponent : Int) : List Char :=
  let mantissa :=
    match digits with
    | [] => []
    | [d] => [d]
    | d :: ds => d :: '.' :: ds
  let power := Nat.toDigits 10 exponent.natAbs
  mantissa ++ 'e' :: (if exponent < 0 then '-' else '+') ::
    zeros (width - power.length) ++ power

/-- A decimal in the given layout. Its exponent is that of the first digit. -/
def Layout.writeScaled (l : Layout) (d : Scaled) : List Char :=
  let digits := Nat.toDigits 10 d.digits
  let exponent := d.power + (digits.length - 1 : Nat)
  if l.positionalFrom ≤ exponent ∧ exponent < l.positionalBelow then
    positional digits exponent
  else
    scientific l.exponentWidth digits exponent

/-- `x` in the given layout. -/
def Layout.write (l : Layout) (x : Binary64) : String :=
  let minus := if x.negative then ['-'] else []
  if x.isZero then String.ofList (minus ++ ['0', '.', '0'])
  else if x.isFinite then String.ofList (minus ++ l.writeScaled (shortest l.tie x))
  else if x.magnitude = Binary64.infinity then String.ofList (minus ++ ['i', 'n', 'f'])
  else "NaN"

end PipelineWatch.Decimal
