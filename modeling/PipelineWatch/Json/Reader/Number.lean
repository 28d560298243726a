import PipelineWatch.Json.Basic
import PipelineWatch.Json.Byte
import PipelineWatch.Json.Syntax
import PipelineWatch.Text.Natural

/-!
Numbers in the text of a document. Digits are collected into a word of 64 bits
while they fit; what does not fit only moves the decimal point. A number with a
point, an exponent or too many digits is the collected word times a power of
ten, in floating-point arithmetic and so rounded at each step.
-/
namespace PipelineWatch.Json

open Decimal (Binary64)

/-- Text that is being read. -/
abbrev Bytes := List UInt8

/-- What a reader gives: a value and the text behind it, or where it stopped. -/
abbrev Taken (α : Type) := Except (Stop SyntaxError) (α × Bytes)

/-- Whether a digit comes next. -/
def startsDigit : Bytes → Bool
  | [] => false
  | b :: _ => (Byte.digit? b).isSome

/-- Takes digits as long as the value that they continue stays below `limit`.
`count` goes up by one with each. -/
def growDigits (limit value count : Nat) : Bytes → Nat × Nat × Bytes
  | [] => (value, count, [])
  | b :: rest =>
    match Byte.digit? b with
    | some d =>
      if value * 10 + d < limit then growDigits limit (value * 10 + d) (count + 1) rest
      else (value, count, b :: rest)
    | none => (value, count, b :: rest)

/-- Takes all digits that follow and counts them. -/
def skipDigits (count : Nat) : Bytes → Nat × Bytes
  | [] => (count, [])
  | b :: rest =>
    if (Byte.digit? b).isSome then skipDigits (count + 1) rest else (count, b :: rest)

/-- `10 ^ n` in floating point. -/
def powerOfTen (n : Nat) : Binary64 :=
  .ofNat (Nat.pow 10 n)

/-- Divides by `10 ^ n`, at most 308 places at a time. -/
def divideDown : Nat → Binary64 → Nat → Binary64
  | 0, f, _ => f
  | rounds + 1, f, n =>
    if n ≤ 308 then f.div (powerOfTen n)
    else if f.isZero then f
    else divideDown rounds (f.div (powerOfTen 308)) (n - 308)

/-- `significand * 10 ^ exponent`, unless it is too large. -/
def scaled? (significand : Nat) (exponent : Int) : Option Binary64 :=
  let f := Binary64.ofNat significand
  if exponent < 0 then
    some (divideDown (exponent.natAbs / 308 + 1) f exponent.natAbs)
  else if exponent ≤ 308 then
    let product := f.mul (powerOfTen exponent.toNat)
    if product.isFinite then some product else none
  else if f.isZero then some f
  else none

/-- A number with the given sign. -/
def signed (negative : Bool) (x : Binary64) : Json :=
  .float (if negative then x.neg else x)

/-- Ends a number with a point, an exponent or too many digits. -/
def finishNumber (negative : Bool) (significand : Nat) (exponent : Int) (rest : Bytes) :
    Taken Json :=
  match scaled? significand exponent with
  | some x => .ok (signed negative x, rest)
  | none => .error (.behind .numberOutOfRange rest)

/-- The exponents that are told from each other stay below this. -/
def exponentLimit : Nat := Nat.pow 2 31

/-- Takes the sign of an exponent. The answer is `true` for a minus. -/
def takeSign : Bytes → Bool × Bytes
  | [] => (false, [])
  | b :: rest =>
    if b = Byte.plus then (false, rest)
    else if b = Byte.minus then (true, rest)
    else (false, b :: rest)

/-- Reads what follows the mark of an exponent. An exponent of more than 31 bits
leaves zero or nothing that could be written. -/
def readExponent (negative : Bool) (significand : Nat) (exponent : Int) (input : Bytes) :
    Taken Json :=
  let (down, rest) := takeSign input
  let (power, count, rest) := growDigits exponentLimit 0 0 rest
  if count = 0 then
    match rest with
    | [] => .error (.behind .endInValue [])
    | _ :: rest => .error (.behind .invalidNumber rest)
  else if startsDigit rest then
    if significand ≠ 0 ∧ !down then .error (.behind .numberOutOfRange (rest.drop 1))
    else .ok (signed negative .zero, (skipDigits 0 rest).2)
  else
    finishNumber negative significand (if down then exponent - power else exponent + power) rest

/-- Reads the exponent if one follows, and ends the number. -/
def readScale (negative : Bool) (significand : Nat) (exponent : Int) : Bytes → Taken Json
  | [] => finishNumber negative significand exponent []
  | b :: rest =>
    if Byte.isExponentMark b then readExponent negative significand exponent rest
    else finishNumber negative significand exponent (b :: rest)

/-- Reads what follows the point. Digits that no longer fit are dropped. -/
def readFraction (negative : Bool) (significand : Nat) (exponent : Int) (input : Bytes) :
    Taken Json :=
  if startsDigit input then
    let (significand, places, rest) := growDigits Text.wordSize significand 0 input
    readScale negative significand (exponent - places) (skipDigits 0 rest).2
  else
    match input with
    | [] => .error (.next .endInValue [])
    | rest => .error (.next .invalidNumber rest)

/-- A number without point or exponent. Below zero there is one bit less, and no
zero. -/
def wholeNumber (negative : Bool) (n : Nat) : Json :=
  if !negative then .integer n
  else if 0 < n ∧ n ≤ Text.wordSize / 2 then .integer (-n)
  else signed true (Binary64.ofNat n)

/-- Ends a number with neither point nor exponent. -/
def finishWhole (negative : Bool) (significand dropped : Nat) (rest : Bytes) : Taken Json :=
  if dropped = 0 then .ok (wholeNumber negative significand, rest)
  else finishNumber negative significand dropped rest

/-- Reads what follows the whole part. `dropped` digits of it did not fit. -/
def readAfterWhole (negative : Bool) (significand dropped : Nat) : Bytes → Taken Json
  | [] => finishWhole negative significand dropped []
  | b :: rest =>
    if b = Byte.point then readFraction negative significand dropped rest
    else if Byte.isExponentMark b then readExponent negative significand dropped rest
    else finishWhole negative significand dropped (b :: rest)

/-- Reads a number from its first digit on. A zero in front stands alone. -/
def readDigits (negative : Bool) : Bytes → Taken Json
  | [] => .error (.behind .endInValue [])
  | b :: rest =>
    if b = Byte.zero then
      if startsDigit rest then .error (.next .invalidNumber rest)
      else readAfterWhole negative 0 0 rest
    else if (Byte.digit? b).isSome then
      let (significand, _, rest) := growDigits Text.wordSize 0 0 (b :: rest)
      let (dropped, rest) := skipDigits 0 rest
      readAfterWhole negative significand dropped rest
    else .error (.behind .invalidNumber rest)

/-- Reads a number, its sign included. -/
def readNumber : Bytes → Taken Json
  | [] => .error (.behind .endInValue [])
  | b :: rest => if b = Byte.minus then readDigits true rest else readDigits false (b :: rest)

end PipelineWatch.Json
