import PipelineWatch.Text.Blank

/-!
Whole numbers in text: at most one `+`, then ASCII digits, and a value that
fits 64 bits.
-/
namespace PipelineWatch.Text

/-- Why a text is not a whole number of 64 bits. -/
inductive NaturalError where
  | empty
  | invalidDigit
  | tooLarge
deriving DecidableEq, Repr

/-- The wording of a failure. -/
def NaturalError.message : NaturalError → String
  | .empty => "cannot parse integer from empty string"
  | .invalidDigit => "invalid digit found in string"
  | .tooLarge => "number too large to fit in target type"

/-- How many numbers 64 bits hold. -/
def wordSize : Nat := Nat.pow 2 64

/-- The value of one ASCII digit. -/
def digit? (c : Char) : Option Nat :=
  if '0' ≤ c ∧ c ≤ '9' then some (c.toNat - '0'.toNat) else none

/-- Reads `cs` as digits that continue `value`. A digit that does not belong
and a value that outgrows 64 bits are told apart by which comes first. -/
def naturalDigits (value : Nat) : List Char → Except NaturalError Nat
  | [] => .ok value
  | c :: cs =>
    match digit? c with
    | none => .error .invalidDigit
    | some d =>
      let next := value * 10 + d
      if next < wordSize then naturalDigits next cs else .error .tooLarge

/-- The number that `s` writes. A sign with no digit behind it is a digit that
does not belong. -/
def natural? (s : String) : Except NaturalError Nat :=
  match s.toList with
  | [] => .error .empty
  | ['+'] => .error .invalidDigit
  | '+' :: cs => naturalDigits 0 cs
  | cs => naturalDigits 0 cs

end PipelineWatch.Text
