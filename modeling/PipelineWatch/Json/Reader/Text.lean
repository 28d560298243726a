import PipelineWatch.Json.Reader.Number
import PipelineWatch.Text.Utf8

/-!
Strings in the text of a document, from behind the opening quote to behind the
closing one. Raw characters and escapes may follow each other in any way; only
the raw ones can fail to be UTF-8.
-/
namespace PipelineWatch.Json

/-- Reads the four digits of a numeric escape. -/
def readHex4 : Bytes → Taken Nat
  | a :: b :: c :: d :: rest =>
    match Byte.hexDigit? a, Byte.hexDigit? b, Byte.hexDigit? c, Byte.hexDigit? d with
    | some a, some b, some c, some d => .ok (a * 0x1000 + b * 0x100 + c * 0x10 + d, rest)
    | _, _, _, _ => .error (.behind .invalidEscape rest)
  | _ => .error (.behind .endInText [])

/-- A unit of a pair that stands for one character, the first half of it. -/
def isLead (unit : Nat) : Bool :=
  0xD800 ≤ unit && unit ≤ 0xDBFF

/-- The second half of such a pair. -/
def isTrail (unit : Nat) : Bool :=
  0xDC00 ≤ unit && unit ≤ 0xDFFF

/-- The character of a pair. -/
def pairChar (lead trail : Nat) : Char :=
  Char.ofNat (0x10000 + (lead - 0xD800) * 0x400 + (trail - 0xDC00))

/-- Reads the escape that has to follow the first half of a pair. -/
def readTrail (lead : Nat) : Bytes → Taken Char
  | [] => .error (.behind .endInText [])
  | b :: rest =>
    if b = Byte.backslash then
      match rest with
      | [] => .error (.behind .endInText [])
      | u :: rest =>
        if u = Byte.smallU then
          match readHex4 rest with
          | .ok (trail, rest) =>
            if isTrail trail then .ok (pairChar lead trail, rest)
            else .error (.behind .loneSurrogate rest)
          | .error stop => .error stop
        else .error (.behind .hexEscapeCutShort rest)
    else .error (.behind .hexEscapeCutShort rest)

/-- Reads a numeric escape from behind its `u`. -/
def readUnicodeEscape (input : Bytes) : Taken Char :=
  match readHex4 input with
  | .ok (unit, rest) =>
    if isTrail unit then .error (.behind .loneSurrogate rest)
    else if isLead unit then readTrail unit rest
    else .ok (Char.ofNat unit, rest)
  | .error stop => .error stop

/-- The character of an escape of one letter. -/
def letterEscape? (b : UInt8) : Option Char :=
  if b = Byte.quote then some '"'
  else if b = Byte.backslash then some '\\'
  else if b = 0x2F then some '/'
  else if b = 0x62 then some '\x08'
  else if b = 0x66 then some '\x0c'
  else if b = 0x6E then some '\n'
  else if b = 0x72 then some '\r'
  else if b = 0x74 then some '\t'
  else none

/-- Reads an escape from behind its backslash. -/
def readEscape : Bytes → Taken Char
  | [] => .error (.behind .endInText [])
  | b :: rest =>
    if b = Byte.smallU then readUnicodeEscape rest
    else
      match letterEscape? b with
      | some c => .ok (c, rest)
      | none => .error (.behind .invalidEscape rest)

/-- Reads up to the closing quote. Each step takes a byte of the text at least,
and one of `fuel`. `done` holds the characters read, last first. Once a byte
belongs to none, `bad` counts the bytes of the string from there on, an escape as
the bytes of its character; the fault has its place that far before the end of
the string. -/
def readTextOnto : Bytes → List Char → Option Nat → Bytes → Taken String
  | _, _, _, [] => .error (.behind .endInText [])
  | [], _, _, rest => .error (.behind .endInText rest)
  | _ :: fuel, done, bad, b :: rest =>
    if b = Byte.quote then
      match bad with
      | none => .ok (String.ofList done.reverse, rest)
      | some count => .error ⟨.notUnicode, rest.length + count⟩
    else if b = Byte.backslash then
      match readEscape rest with
      | .ok (c, rest) => readTextOnto fuel (c :: done) (bad.map (· + c.utf8Size)) rest
      | .error stop => .error stop
    else if b < 0x20 then .error (.behind .controlCharacter rest)
    else
      match Text.Utf8.next? (b :: rest) with
      | some (c, rest) => readTextOnto fuel (c :: done) (bad.map (· + c.utf8Size)) rest
      | none => readTextOnto fuel done (some (bad.getD 0 + 1)) rest

/-- Reads a string from behind its opening quote. The text itself is fuel
enough. -/
def readText (input : Bytes) : Taken String :=
  readTextOnto input [] none input

end PipelineWatch.Json
