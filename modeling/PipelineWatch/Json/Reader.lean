import PipelineWatch.Json.Reader.Number
import PipelineWatch.Json.Reader.Text

/-!
Reading a document from its text. `readTree` gives it as it stands, with the
members of objects in their order and every repeated key; `read` gives it
normalized. Containers nest `maxDepth` deep at most.

The steps between the parts of a container are shared with the readers that
look for a particular record: `nextItem` and `nextKey` go to the next part or
stay in front of the closing bracket, `readColon` leads to the value of a key.
-/
namespace PipelineWatch.Json

/-- How many containers may stand inside each other. -/
def maxDepth : Nat := 127

/-- The text from the next byte on that is no blank. -/
def skipBlanks (input : Bytes) : Bytes :=
  input.dropWhile Byte.isBlank

/-- Reads the rest of a fixed word, byte by byte. -/
def readWord : Bytes → Bytes → Taken Unit
  | [], rest => .ok ((), rest)
  | _ :: _, [] => .error (.behind .endInValue [])
  | w :: word, b :: rest =>
    if b = w then readWord word rest else .error (.behind .expectedIdent rest)

/-- Goes to the next item of a list. The answer is `false`, in front of the
bracket, when the list ends. -/
def nextItem (first : Bool) (input : Bytes) : Taken Bool :=
  match skipBlanks input with
  | [] => .error (.next .endInList [])
  | b :: rest =>
    if b = Byte.closeBracket then .ok (false, b :: rest)
    else if first then .ok (true, b :: rest)
    else if b = Byte.comma then
      match skipBlanks rest with
      | [] => .error (.next .endInValue [])
      | b :: rest =>
        if b = Byte.closeBracket then .error (.next .trailingComma (b :: rest))
        else .ok (true, b :: rest)
    else .error (.next .expectedCommaOrBracket (b :: rest))

/-- Goes behind a key that has to start here. -/
def readKey : Bytes → Taken (Option String)
  | [] => .error (.next .endInValue [])
  | b :: rest =>
    if b = Byte.quote then
      match readText rest with
      | .ok (key, rest) => .ok (some key, rest)
      | .error stop => .error stop
    else .error (.next .keyNotText (b :: rest))

/-- Goes behind the next key of an object. There is none, in front of the
bracket, when the object ends. -/
def nextKey (first : Bool) (input : Bytes) : Taken (Option String) :=
  match skipBlanks input with
  | [] => .error (.next .endInObject [])
  | b :: rest =>
    if b = Byte.closeBrace then .ok (none, b :: rest)
    else if first then readKey (b :: rest)
    else if b = Byte.comma then
      match skipBlanks rest with
      | [] => .error (.next .endInValue [])
      | b :: rest =>
        if b = Byte.closeBrace then .error (.next .trailingComma (b :: rest))
        else readKey (b :: rest)
    else .error (.next .expectedCommaOrBrace (b :: rest))

/-- Goes behind the colon between a key and its value. -/
def readColon (input : Bytes) : Taken Unit :=
  match skipBlanks input with
  | [] => .error (.next .endInObject [])
  | b :: rest =>
    if b = Byte.colon then .ok ((), rest) else .error (.next .expectedColon (b :: rest))

/-- Reads the items of a list and its closing bracket. Each item takes a byte of
the text at least, and one of `fuel`. -/
def readItems (item : Bytes → Taken Json) :
    Bytes → Bool → List Json → Bytes → Taken (List Json)
  | [], _, _, rest => .error (.next .endInList rest)
  | _ :: fuel, first, done, input =>
    match nextItem first input with
    | .error stop => .error stop
    | .ok (false, rest) => .ok (done.reverse, rest.drop 1)
    | .ok (true, rest) =>
      match item rest with
      | .error stop => .error stop
      | .ok (v, rest) => readItems item fuel false (v :: done) rest

/-- Reads the members of an object and its closing bracket. -/
def readMembers (item : Bytes → Taken Json) :
    Bytes → Bool → Members → Bytes → Taken Members
  | [], _, _, rest => .error (.next .endInObject rest)
  | _ :: fuel, first, done, input =>
    match nextKey first input with
    | .error stop => .error stop
    | .ok (none, rest) => .ok (done.reverse, rest.drop 1)
    | .ok (some key, rest) =>
      match readColon rest with
      | .error stop => .error stop
      | .ok (_, rest) =>
        match item rest with
        | .error stop => .error stop
        | .ok (v, rest) => readMembers item fuel false ((key, v) :: done) rest

/-- Reads a fixed word, whose first byte has been taken, as `value`. -/
def readWordAs (value : Json) (word input : Bytes) : Taken Json :=
  match readWord word input with
  | .ok (_, rest) => .ok (value, rest)
  | .error stop => .error stop

/-- A value that stands by itself: a word, a number or a string. -/
def readScalar : Bytes → Taken Json
  | [] => .error (.next .endInValue [])
  | b :: rest =>
    if b = Byte.smallN then readWordAs .null [0x75, 0x6C, 0x6C] rest
    else if b = Byte.smallT then readWordAs (.bool true) [0x72, 0x75, 0x65] rest
    else if b = Byte.smallF then readWordAs (.bool false) [0x61, 0x6C, 0x73, 0x65] rest
    else if b = Byte.quote then
      match readText rest with
      | .ok (s, rest) => .ok (.text s, rest)
      | .error stop => .error stop
    else if b = Byte.minus || (Byte.digit? b).isSome then readNumber (b :: rest)
    else .error (.next .expectedValue (b :: rest))

/-- Reads a value. `inner` reads what stands inside a container; without it no
further container is admitted. The text from the opening bracket on is fuel
enough for the parts and the closing one. -/
def readWith (inner : Option (Bytes → Taken Json)) (input : Bytes) : Taken Json :=
  match skipBlanks input with
  | [] => .error (.next .endInValue [])
  | b :: rest =>
    if b = Byte.openBracket then
      match inner with
      | none => .error (.next .tooDeep (b :: rest))
      | some item =>
        match readItems item (b :: rest) true [] rest with
        | .ok (items, rest) => .ok (.array items, rest)
        | .error stop => .error stop
    else if b = Byte.openBrace then
      match inner with
      | none => .error (.next .tooDeep (b :: rest))
      | some item =>
        match readMembers item (b :: rest) true [] rest with
        | .ok (members, rest) => .ok (.object members, rest)
        | .error stop => .error stop
    else readScalar (b :: rest)

/-- Reads a value with at most `depth` containers inside each other. -/
def readValue : Nat → Bytes → Taken Json
  | 0 => readWith none
  | depth + 1 => readWith (some (readValue depth))

/-- Succeeds when nothing but blanks is left. -/
def readEnd (input : Bytes) : Except (Stop SyntaxError) Unit :=
  match skipBlanks input with
  | [] => .ok ()
  | rest => .error (.next .trailingCharacters rest)

/-- The document that `input` holds, as it stands there. -/
def readTree (input : Bytes) : Except (Stop SyntaxError) Json :=
  match readValue maxDepth input with
  | .ok (v, rest) =>
    match readEnd rest with
    | .ok _ => .ok v
    | .error stop => .error stop
  | .error stop => .error stop

/-- The document that `input` holds, normalized. -/
def read (input : Bytes) : Except (Stop SyntaxError) Json :=
  (readTree input).map normalize

end PipelineWatch.Json
