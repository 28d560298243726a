import PipelineWatch.Json.Reader

/-!
Passing over a value that nobody asks for. Its outline has to be right, and
that is all: containers may nest without limit, numbers may be of any size, and
escapes need not name a character.
-/
namespace PipelineWatch.Json

/-- The text behind something that was passed over. -/
abbrev Skipped := Except (Stop SyntaxError) Bytes

/-- Passes over what follows a backslash. -/
def skipEscape : Bytes → Skipped
  | [] => .error (.behind .endInText [])
  | b :: rest =>
    if b = Byte.smallU then
      match readHex4 rest with
      | .ok (_, rest) => .ok rest
      | .error stop => .error stop
    else if (letterEscape? b).isSome then .ok rest
    else .error (.behind .invalidEscape rest)

/-- Passes over what is left of a string. Each step takes a byte of the text at
least, and one of `fuel`. -/
def skipTextOnward : Bytes → Bytes → Skipped
  | _, [] => .error (.behind .endInText [])
  | [], rest => .error (.behind .endInText rest)
  | _ :: fuel, b :: rest =>
    if b = Byte.quote then .ok rest
    else if b = Byte.backslash then
      match skipEscape rest with
      | .ok rest => skipTextOnward fuel rest
      | .error stop => .error stop
    else if b < 0x20 then .error (.behind .controlCharacter (b :: rest))
    else skipTextOnward fuel rest

/-- Passes over a string from behind its opening quote. -/
def skipText (input : Bytes) : Skipped :=
  skipTextOnward input input

/-- Passes over what follows the mark of an exponent. -/
def skipExponent (input : Bytes) : Skipped :=
  let (_, rest) := takeSign input
  if startsDigit rest then .ok (skipDigits 0 rest).2
  else .error (.behind .invalidNumber (rest.drop 1))

/-- Passes over an exponent, if there is one. -/
def skipScale : Bytes → Skipped
  | [] => .ok []
  | b :: rest => if Byte.isExponentMark b then skipExponent rest else .ok (b :: rest)

/-- Passes over what follows the whole part of a number. -/
def skipAfterWhole : Bytes → Skipped
  | [] => .ok []
  | b :: rest =>
    if b = Byte.point then
      if startsDigit rest then skipScale (skipDigits 0 rest).2
      else .error (.next .invalidNumber rest)
    else skipScale (b :: rest)

/-- Passes over a number from its first digit on. -/
def skipNumber : Bytes → Skipped
  | [] => .error (.behind .invalidNumber [])
  | b :: rest =>
    if b = Byte.zero then
      if startsDigit rest then .error (.next .invalidNumber rest) else skipAfterWhole rest
    else if (Byte.digit? b).isSome then skipAfterWhole (skipDigits 0 rest).2
    else .error (.behind .invalidNumber rest)

/-- The two kinds of container. -/
inductive Container where
  | list
  | object
deriving DecidableEq, Repr

/-- What is wrong when the text ends inside. -/
def Container.endError : Container → SyntaxError
  | .list => .endInList
  | .object => .endInObject

/-- What is wrong when neither a comma nor the end follows a part. -/
def Container.commaError : Container → SyntaxError
  | .list => .expectedCommaOrBracket
  | .object => .expectedCommaOrBrace

/-- The bracket that ends it. -/
def Container.closing : Container → UInt8
  | .list => Byte.closeBracket
  | .object => Byte.closeBrace

/-- Passes over a key and its colon. -/
def skipKey (input : Bytes) : Skipped :=
  match skipBlanks input with
  | [] => .error (.next .endInObject [])
  | b :: rest =>
    if b = Byte.quote then
      match skipText rest with
      | .ok rest =>
        match readColon rest with
        | .ok (_, rest) => .ok rest
        | .error stop => .error stop
      | .error stop => .error stop
    else .error (.next .keyNotText (b :: rest))

/-- Goes to the value of the next part: behind key and colon in an object. -/
def Container.toPart : Container → Bytes → Skipped
  | .list, rest => .ok rest
  | .object, rest => skipKey rest

/-- Where the skipping stands: behind an opening bracket, or behind a value; the
containers that are open there, innermost first; and the text. -/
structure SkipPoint where
  opened : Bool
  within : List Container
  rest : Bytes

/-- One move over the outline of a value. -/
abbrev SkipMove := Except (Stop SyntaxError) SkipPoint

/-- Ends a value that stands by itself. -/
def moveAfter (within : List Container) : Skipped → SkipMove
  | .ok rest => .ok ⟨false, within, rest⟩
  | .error stop => .error stop

/-- Moves over an opening bracket, or over a value that stands by itself. -/
def moveValue (within : List Container) (input : Bytes) : SkipMove :=
  match skipBlanks input with
  | [] => .error (.next .endInValue [])
  | b :: rest =>
    if b = Byte.openBracket then .ok ⟨true, .list :: within, rest⟩
    else if b = Byte.openBrace then .ok ⟨true, .object :: within, rest⟩
    else if b = Byte.quote then moveAfter within (skipText rest)
    else if b = Byte.minus then moveAfter within (skipNumber rest)
    else if (Byte.digit? b).isSome then moveAfter within (skipNumber (b :: rest))
    else moveAfter within ((readScalar (b :: rest)).map (·.2))

/-- Moves into the next part of the container `c`. -/
def movePart (c : Container) (outer : List Container) (input : Bytes) : SkipMove :=
  match c.toPart input with
  | .ok rest => moveValue (c :: outer) rest
  | .error stop => .error stop

/-- Moves on inside the container `c`. A part may follow only behind a comma once
there was one before. -/
def moveWithin (first : Bool) (c : Container) (outer : List Container) (input : Bytes) :
    SkipMove :=
  match skipBlanks input with
  | [] => .error (.next c.endError [])
  | b :: rest =>
    if !first && b == Byte.comma then movePart c outer rest
    else if b = c.closing then .ok ⟨false, outer, rest⟩
    else if first then movePart c outer (b :: rest)
    else .error (.next c.commaError (b :: rest))

/-- Moves on until no container is open. Each move takes a byte of the text at
least, and one of `fuel`. -/
def skipOnward : Bytes → SkipPoint → Skipped
  | _, ⟨_, [], rest⟩ => .ok rest
  | [], point => .error (.next .endInValue point.rest)
  | _ :: fuel, ⟨opened, c :: outer, rest⟩ =>
    match moveWithin opened c outer rest with
    | .ok point => skipOnward fuel point
    | .error stop => .error stop

/-- Passes over one value. -/
def skipValue (input : Bytes) : Skipped :=
  match moveValue [] input with
  | .ok point => skipOnward input point
  | .error stop => .error stop

end PipelineWatch.Json
