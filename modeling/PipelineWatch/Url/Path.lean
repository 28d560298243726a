import PipelineWatch.Url.Percent

/-!
The path of an address. It is read segment by segment and resolved on the way: a
segment of one dot is left out, and one of two dots takes the segment before it
away. A segment that starts with a drive is never taken away. In the path of a
file, a first segment that is a drive gets its colon.
-/
namespace PipelineWatch.Url

/-- The kinds of schemes, which differ in what their addresses may leave out. -/
inductive SchemeKind where
  | file
  | special
  | other
deriving DecidableEq, Repr

/-- Whether backslashes count as slashes. -/
def SchemeKind.isSpecial : SchemeKind → Bool
  | .other => false
  | _ => true

/-- Whether `c` divides the segments of a path. -/
def SchemeKind.isSlash (kind : SchemeKind) (c : Char) : Bool :=
  c == '/' || (kind.isSpecial && c == '\\')

/-- What is dropped everywhere in an address. -/
def isBreak (c : Char) : Bool :=
  c == '\t' || c == '\n' || c == '\r'

/-- `cs` without the breaks in it. -/
def dropBreaks (cs : List Char) : List Char :=
  cs.filter fun c => !isBreak c

/-- The segments of a path, at least one. -/
def splitSegments (kind : SchemeKind) : List Char → List (List Char)
  | [] => [[]]
  | c :: cs =>
    if kind.isSlash c then [] :: splitSegments kind cs
    else
      match splitSegments kind cs with
      | [] => [[c]]
      | segment :: segments => (c :: segment) :: segments

/-- A dot, possibly encoded, and what follows it. -/
def takeDotSign : List Char → Option (List Char)
  | '.' :: cs => some cs
  | '%' :: '2' :: 'e' :: cs => some cs
  | '%' :: '2' :: 'E' :: cs => some cs
  | _ => none

/-- A segment that stands for its own place. -/
def isSingleDot (segment : List Char) : Bool :=
  takeDotSign segment == some []

/-- A segment that stands for the place above. -/
def isDoubleDot (segment : List Char) : Bool :=
  (takeDotSign segment).bind takeDotSign == some []

/-- The letter of a drive, with a colon or a bar behind it. -/
def driveLetter? : List Char → Option Char
  | [c, d] => if c.isAlpha && (d == ':' || d == '|') then some c else none
  | _ => none

/-- Whether a segment starts with a drive: nothing or a backslash follows it. -/
def startsWithDrive : List Char → Bool
  | c :: d :: rest => (driveLetter? [c, d]).isSome && rest.head?.all (· == '\\')
  | _ => false

/-- A path as far as it has been read. -/
structure Trail where
  /-- The text of the path, last character first. -/
  text : List Char
  /-- Whether the path of a file starts with a drive. -/
  hasDrive : Bool
deriving DecidableEq, Repr

/-- A path of which only the first slash has been read. -/
def Trail.start : Trail :=
  ⟨['/'], false⟩

/-- Takes the last segment away, unless it starts with a drive. The text is in
reverse and has a slash at either end; its first one stays. -/
def shorten : List Char → List Char
  | [] => []
  | slash :: before =>
    let segment := (before.takeWhile (· != '/')).reverse
    let above := before.dropWhile (· != '/')
    if above.isEmpty || startsWithDrive segment then slash :: before else above

/-- The first segment of the path of a file, if it is a drive and then, behind
a break, something else: the break divides the two like a slash. -/
def divideDrive? (raw : List Char) : Option (List Char) :=
  match raw.dropWhile isBreak with
  | [] => none
  | c :: rest =>
    match rest.dropWhile isBreak with
    | [] => none
    | d :: rest =>
      if c.isAlpha && d == ':' && rest.head?.any isBreak && rest.any (fun c => !isBreak c) then
        some (c :: d :: '/' :: dropBreaks rest)
      else none

/-- Puts a segment at the end of the text. -/
def Trail.put (t : Trail) (segment : List Char) : Trail :=
  { t with text := segment.reverse ++ t.text }

/-- Puts the first segment of the path of a file, which may be a drive. -/
def Trail.putFirst (t : Trail) (raw : List Char) : Trail :=
  match driveLetter? (dropBreaks raw) with
  | some c => { t.put [c, ':'] with hasDrive := true }
  | none => t.put (percentEncode inPathSet ((divideDrive? raw).getD (dropBreaks raw)))

/-- Reads a segment, and a slash behind it unless it is the last one. -/
def Trail.read (kind : SchemeKind) (t : Trail) (raw : List Char) (isLast : Bool) : Trail :=
  let segment := percentEncode inPathSet (dropBreaks raw)
  if isDoubleDot segment then { t with text := shorten t.text }
  else if isSingleDot segment then t
  else
    let t := if kind = .file ∧ t.text = ['/'] then t.putFirst raw else t.put segment
    if isLast then t else t.put ['/']

/-- Reads segments up to the end of the path. -/
def Trail.readAll (kind : SchemeKind) (t : Trail) : List (List Char) → Trail
  | [] => t
  | segment :: rest => (t.read kind segment rest.isEmpty).readAll kind rest

/-- The path behind its first slash. -/
def readPath (kind : SchemeKind) (cs : List Char) : Trail :=
  Trail.start.readAll kind (splitSegments kind cs)

/-- The text of a path behind its first slash, resolved and encoded. -/
def writePath (kind : SchemeKind) (cs : List Char) : List Char :=
  (readPath kind cs).text.reverse

/-- The text of the path of a file, which starts with one slash only. -/
def Trail.filePath (t : Trail) : List Char :=
  '/' :: t.text.reverse.dropWhile (· == '/')

end PipelineWatch.Url
