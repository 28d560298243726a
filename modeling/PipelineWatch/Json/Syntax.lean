import PipelineWatch.Json.Byte

/-!
What can be wrong with the text of a document, and where. A reader that stops
says how many bytes it had left; `Position.of` turns that into a line and a
column.
-/
namespace PipelineWatch.Json

/-- The ways in which a text fails to be a document. -/
inductive SyntaxError where
  | endInValue
  | endInList
  | endInObject
  | endInText
  | expectedValue
  | expectedIdent
  | expectedColon
  | expectedCommaOrBracket
  | expectedCommaOrBrace
  | trailingCharacters
  | trailingComma
  | keyNotText
  | invalidEscape
  | invalidNumber
  | numberOutOfRange
  | loneSurrogate
  | hexEscapeCutShort
  | controlCharacter
  | notUnicode
  | tooDeep
deriving DecidableEq, Repr

/-- The wording of a failure. -/
def SyntaxError.message : SyntaxError → String
  | .endInValue => "EOF while parsing a value"
  | .endInList => "EOF while parsing a list"
  | .endInObject => "EOF while parsing an object"
  | .endInText => "EOF while parsing a string"
  | .expectedValue => "expected value"
  | .expectedIdent => "expected ident"
  | .expectedColon => "expected `:`"
  | .expectedCommaOrBracket => "expected `,` or `]`"
  | .expectedCommaOrBrace => "expected `,` or `\x7d`"
  | .trailingCharacters => "trailing characters"
  | .trailingComma => "trailing comma"
  | .keyNotText => "key must be a string"
  | .invalidEscape => "invalid escape"
  | .invalidNumber => "invalid number"
  | .numberOutOfRange => "number out of range"
  | .loneSurrogate => "lone leading surrogate in hex escape"
  | .hexEscapeCutShort => "unexpected end of hex escape"
  | .controlCharacter => "control character (\\u0000-\\u001F) found while parsing a string"
  | .notUnicode => "invalid unicode code point"
  | .tooDeep => "recursion limit exceeded"

/-- A failure and how many bytes of the text were left at that point. -/
structure Stop (ε : Type) where
  cause : ε
  left : Nat
deriving DecidableEq, Repr

/-- A failure seen after the last byte taken. -/
def Stop.behind {ε : Type} (cause : ε) (rest : List UInt8) : Stop ε :=
  ⟨cause, rest.length⟩

/-- A failure seen at the next byte, or at the end if there is none. -/
def Stop.next {ε : Type} (cause : ε) (rest : List UInt8) : Stop ε :=
  ⟨cause, rest.length - 1⟩

/-- A place in a text. Lines count from one; the column is the number of bytes
of its line up to the place. -/
structure Position where
  line : Nat
  column : Nat
deriving DecidableEq, Repr

/-- The place behind `taken`, counted on from `p`. -/
def Position.advance (p : Position) : List UInt8 → Position
  | [] => p
  | b :: taken =>
    if b = Byte.lineFeed then Position.advance ⟨p.line + 1, 0⟩ taken
    else Position.advance ⟨p.line, p.column + 1⟩ taken

/-- The place in `text` with `left` bytes behind it. -/
def Position.of (text : List UInt8) (left : Nat) : Position :=
  Position.advance ⟨1, 0⟩ (text.take (text.length - left))

/-- A message with the place it belongs to. -/
def Position.locate (p : Position) (message : String) : String :=
  s!"{message} at line {p.line} column {p.column}"

end PipelineWatch.Json
