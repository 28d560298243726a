import PipelineWatch.Url.Dotted
import PipelineWatch.Url.Failure
import PipelineWatch.Url.Percent

/-!
IPv4 addresses in a host: up to four numbers between dots, decimal, octal behind
a zero or hexadecimal behind `0x`, the last one filling all bytes that are left.
-/
namespace PipelineWatch.Url.Ipv4

/-- The number that digits of a base write, if they all are such digits. -/
def digits? (base value : Nat) : List Char → Option Nat
  | [] => some value
  | c :: cs =>
    match hexValue? c with
    | some d => if d < base then digits? base (value * base + d) cs else none
    | none => none

/-- The number that one part writes. -/
def number? : List Char → Option Nat
  | [] => none
  | ['0'] => some 0
  | '0' :: c :: cs =>
    if c = 'x' ∨ c = 'X' then digits? 16 0 cs else digits? 8 0 (c :: cs)
  | cs => digits? 10 0 cs

/-- Whether a host has to be an address because its last part, an empty one
aside, is a number. -/
def endsInNumber (cs : List Char) : Bool :=
  let last :=
    match (splitDots cs).reverse with
    | [] :: part :: _ => part
    | part :: _ => part
    | [] => []
  (!last.isEmpty && last.all fun c => '0' ≤ c && c ≤ '9') || (number? last).isSome

/-- The address of all numbers but the last, each a byte, and the last one. -/
def combine (numbers : List Nat) (last : Nat) : Except Failure Nat :=
  let size := Nat.pow 256 (4 - numbers.length)
  if last < size ∧ numbers.all (· ≤ 255) then
    .ok (numbers.foldl (fun sum n => sum * 256 + n) 0 * size + last)
  else .error .invalidIpv4

/-- The address that a host writes. -/
def parse (cs : List Char) : Except Failure Nat :=
  let parts := splitDots cs
  let parts := if parts.getLast? = some [] then parts.dropLast else parts
  if 4 < parts.length then .error .invalidIpv4
  else
    match parts.mapM number? with
    | none => .error .invalidIpv4
    | some numbers =>
      match numbers.getLast? with
      | none => .error .invalidIpv4
      | some last => combine numbers.dropLast last

/-- An address as four numbers between dots. -/
def write (n : Nat) : List Char :=
  let part (k : Nat) := Nat.toDigits 10 (n / Nat.pow 256 k % 256)
  part 3 ++ '.' :: part 2 ++ '.' :: part 1 ++ '.' :: part 0

end PipelineWatch.Url.Ipv4
