import PipelineWatch.Url.Host
import PipelineWatch.Url.Path

/-!
Addresses in their normal form. Reading one is lenient in the way browsers are:
blanks at the ends and line breaks anywhere are dropped, letters of scheme and
host become small, a port that the scheme implies is left out, dots in the path
are resolved, and what may not stand somewhere is encoded there.
-/
namespace PipelineWatch

/-- An address. -/
structure Url where
  scheme : List Char
  /-- Name and password with the sign behind them, host and port. -/
  authority : Option (List Char × Url.Host × Option Nat)
  path : List Char
  query : Option (List Char)
  fragment : Option (List Char)
deriving DecidableEq, Repr

namespace Url

/-- What a scheme is. -/
def kindOf (scheme : List Char) : SchemeKind :=
  let name := String.ofList scheme
  if name = "file" then .file
  else if ["http", "https", "ws", "wss", "ftp"].contains name then .special
  else .other

/-- The port that a scheme implies. -/
def defaultPort? (scheme : List Char) : Option Nat :=
  let name := String.ofList scheme
  if name = "http" ∨ name = "ws" then some 80
  else if name = "https" ∨ name = "wss" then some 443
  else if name = "ftp" then some 21
  else none

/-- The text of an address. A path that starts with two slashes would be taken
for a host if there is none, so it gets a dot in front. -/
def text (u : Url) : String :=
  let front :=
    match u.authority with
    | some (user, host, port) =>
      let port :=
        match port with
        | some n => ':' :: Nat.toDigits 10 n
        | none => []
      '/' :: '/' :: user ++ host.write ++ port
    | none =>
      match u.path with
      | '/' :: '/' :: _ => ['/', '.']
      | _ => []
  let query :=
    match u.query with
    | some cs => '?' :: cs
    | none => []
  let fragment :=
    match u.fragment with
    | some cs => '#' :: cs
    | none => []
  String.ofList (u.scheme ++ ':' :: front ++ u.path ++ query ++ fragment)

/-- What is dropped at the ends of an address. -/
def isMargin (c : Char) : Bool :=
  c.toNat ≤ 0x20

/-- What is left of an address once its ends are bare. -/
def dropMargins (cs : List Char) : List Char :=
  ((cs.dropWhile isMargin).reverse.dropWhile isMargin).reverse

/-- Takes a scheme, in small letters, and its colon. `done` holds what was read,
last first. -/
def takeScheme (done : List Char) : List Char → Option (List Char × List Char)
  | [] => none
  | c :: cs =>
    if c = ':' then if done.isEmpty then none else some (done.reverse, cs)
    else if c.isAlpha || (!done.isEmpty && (c.isDigit || c == '+' || c == '-' || c == '.')) then
      takeScheme (Text.lowerAscii c :: done) cs
    else none

/-- Divides what follows the authority and path: query and fragment. -/
def takeTail (special : Bool) (cs : List Char) : Option (List Char) × Option (List Char) :=
  let query := cs.takeWhile (· != '#')
  let fragment := cs.drop query.length
  (match query with
    | '?' :: query => some (percentEncode (inQuerySet special) query)
    | _ => none,
   match fragment with
    | '#' :: fragment => some (percentEncode inFragmentSet fragment)
    | _ => none)

/-- Whether `c` ends the part in front of query and fragment. -/
def endsPath (c : Char) : Bool :=
  c == '?' || c == '#'

/-- Whether `c` ends the authority. -/
def endsAuthority (kind : SchemeKind) (c : Char) : Bool :=
  kind.isSlash c || endsPath c

/-- Name and password, which stand before the last `@` of the authority. An empty
password loses its colon, and nothing at all loses its sign. -/
def writeUser (cs : List Char) : List Char :=
  let name := percentEncode inUserSet (cs.takeWhile (· != ':'))
  let password := percentEncode inUserSet ((cs.dropWhile (· != ':')).drop 1)
  let text := if password.isEmpty then name else name ++ ':' :: password
  if text.isEmpty then [] else text ++ ['@']

/-- The name and password in an authority, and what stands behind them. There are
none if no `@` is there. -/
def splitUser (authority : List Char) : Option (List Char × List Char) :=
  let host := (authority.reverse.takeWhile (· != '@')).reverse
  if host.length = authority.length then none
  else some (authority.take (authority.length - host.length - 1), host)

/-- Divides host and port. A colon between brackets belongs to the host. -/
def splitPort (inside : Bool) : List Char → List Char × Option (List Char)
  | [] => ([], none)
  | c :: cs =>
    if c = ':' ∧ !inside then ([], some cs)
    else
      let inside := if c = '[' then true else if c = ']' then false else inside
      let (host, port) := splitPort inside cs
      (c :: host, port)

/-- Reads the digits of a port that continue `value`, up to the end of the
authority. -/
def readPort (value : Nat) : List Char → Except Failure (Nat × List Char)
  | [] => .ok (value, [])
  | c :: cs =>
    if '0' ≤ c ∧ c ≤ '9' then
      let next := value * 10 + (c.toNat - '0'.toNat)
      if next < 65536 then readPort next cs else .error .invalidPort
    else if c = '/' ∨ c = '\\' ∨ endsPath c then .ok (value, c :: cs)
    else .error .invalidPort

/-- The port that follows a host, unless there are no digits or the scheme implies
it, and what follows the port. -/
def takePort (scheme : List Char) (cs : List Char) : Except Failure (Option Nat × List Char) := do
  let (port, rest) ← readPort 0 cs
  let given := rest.length < cs.length
  .ok (if given ∧ defaultPort? scheme ≠ some port then some port else none, rest)

/-- The address behind `scheme://`, for any scheme but that of files. -/
def ofAuthority (scheme : List Char) (kind : SchemeKind) (cs : List Char) :
    Except Failure Url := do
  let authority := cs.takeWhile fun c => !endsAuthority kind c
  let after := cs.drop authority.length
  let (user, hostPort) := (splitUser authority).getD ([], authority)
  if (splitUser authority).any (fun (user, _) => user.isEmpty) && hostPort.isEmpty &&
      !after.isEmpty then
    .error .emptyHost
  else
    let user := writeUser user
    let (hostText, portText) := splitPort false hostPort
    let host ←
      if kind.isSpecial then
        if hostText.isEmpty then .error .emptyHost else Host.special hostText
      else Host.other hostText
    if host = .empty ∧ portText.isSome then .error .emptyHost
    else
      let (port, rest) ←
        match portText with
        | some port => takePort scheme (port ++ after)
        | none => .ok (none, after)
      if host = .empty ∧ !user.isEmpty then .error .emptyHost
      else
        let path := rest.takeWhile fun c => !endsPath c
        let (query, fragment) := takeTail kind.isSpecial (rest.drop path.length)
        let path :=
          match path with
          | [] => if kind.isSpecial then ['/'] else []
          | c :: cs => writePath kind (if kind.isSlash c then cs else c :: cs)
        .ok ⟨scheme, some (user, host, port), path, query, fragment⟩

/-- Takes the host of a file: the host, and the path behind it. A drive in its
place belongs to the path, and the machine itself needs no name. The slash behind
a host is the first one of the path; where there is no host, it is one more. -/
def takeFileHost (cs : List Char) : Except Failure (Host × Trail) := do
  let raw := cs.takeWhile fun c => !endsAuthority .file c
  let after := cs.drop raw.length
  let name := dropBreaks raw
  if (driveLetter? name).isSome then .ok (.empty, readPath .file cs)
  else if name.isEmpty then .ok (.empty, readPath .file after)
  else
    let host ← Host.special name
    if host = .name ['l', 'o', 'c', 'a', 'l', 'h', 'o', 's', 't'] then
      .ok (.empty, readPath .file after)
    else
      let path := readPath .file (after.drop 1)
      .ok (if path.hasDrive then .empty else host, path)

/-- What stands behind `file:`, up to query and fragment: the host and the path.
Two slashes lead to a host. -/
def takeFilePath (cs : List Char) : Except Failure (Host × Trail) :=
  match cs.dropWhile isBreak with
  | [] => .ok (.empty, .start)
  | a :: rest =>
    if SchemeKind.file.isSlash a then
      match rest.dropWhile isBreak with
      | [] => .ok (.empty, .start)
      | b :: below =>
        if SchemeKind.file.isSlash b then takeFileHost below
        else .ok (.empty, readPath .file rest)
    else .ok (.empty, readPath .file (a :: rest))

/-- The address of a file behind `file:`. Breaks are still in it. -/
def ofFile (scheme : List Char) (cs : List Char) : Except Failure Url := do
  let front := cs.takeWhile fun c => !endsPath c
  let (query, fragment) := takeTail true (dropBreaks (cs.drop front.length))
  let (host, path) ← takeFilePath front
  .ok ⟨scheme, some ([], host, none), path.filePath, query, fragment⟩

/-- The address behind a scheme that implies no host, if there is no host. -/
def ofBarePath (scheme : List Char) (cs : List Char) : Url :=
  let path := cs.takeWhile fun c => !endsPath c
  let (query, fragment) := takeTail false (cs.drop path.length)
  let path :=
    match path with
    | '/' :: path => writePath .other path
    | path => percentEncode isControl path
  ⟨scheme, none, path, query, fragment⟩

/-- The address that a text names. The scheme ends at the first colon. -/
def parse (s : String) : Except Failure Url :=
  let text := dropMargins s.toList
  match takeScheme [] (dropBreaks text) with
  | none => .error .noScheme
  | some (scheme, cs) =>
    match kindOf scheme with
    | .file => ofFile scheme ((text.dropWhile (· != ':')).drop 1)
    | .special => ofAuthority scheme .special (cs.dropWhile SchemeKind.special.isSlash)
    | .other =>
      match cs with
      | '/' :: '/' :: cs => ofAuthority scheme .other cs
      | cs => .ok (ofBarePath scheme cs)

end Url

end PipelineWatch
