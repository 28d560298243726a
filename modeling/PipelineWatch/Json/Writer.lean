import PipelineWatch.Decimal.Layout
import PipelineWatch.Json.Basic

/-!
Writing a document. A style fixes what stands between the parts of a container,
how floating-point numbers look and whether the text keeps to ASCII; `compact`
is the ordinary one, and `producer` the one whose text is hashed when a key is
derived. The text is built from its end, each part put in front of what has
been written: `writeOnto out v` is the text of `v`, reversed, before `out`.
-/
namespace PipelineWatch.Json

open Decimal (Layout)

/-- The choices that a way of writing documents makes. -/
structure Style where
  /-- What stands between two items or members. -/
  between : List Char
  /-- What stands between a key and its value. -/
  afterKey : List Char
  /-- How floating-point numbers are written. -/
  numbers : Layout
  /-- Whether characters beyond printable ASCII are written by number. -/
  asciiOnly : Bool
deriving DecidableEq, Repr

/-- No blanks, and every character that can be is written as it is. -/
def Style.compact : Style where
  between := [',']
  afterKey := [':']
  numbers := .compact
  asciiOnly := false

/-- A blank behind each comma and colon, and nothing but printable ASCII. -/
def Style.producer : Style where
  between := [',', ' ']
  afterKey := [':', ' ']
  numbers := .producer
  asciiOnly := true

/-- One digit of base sixteen. -/
def hexDigit (n : Nat) : Char :=
  Nat.digitChar (n % 16)

/-- A numeric escape: the number of a UTF-16 unit in four digits. -/
def unitEscape (unit : Nat) : List Char :=
  ['\\', 'u', hexDigit (unit / 0x1000), hexDigit (unit / 0x100), hexDigit (unit / 0x10),
    hexDigit unit]

/-- A character by number. Beyond the first 65536 it takes a pair. -/
def charEscape (c : Char) : List Char :=
  let n := c.toNat
  if n < 0x10000 then unitEscape n
  else
    unitEscape (0xD800 + (n - 0x10000) / 0x400) ++ unitEscape (0xDC00 + (n - 0x10000) % 0x400)

/-- How `c` stands inside a string. -/
def Style.char (style : Style) (c : Char) : List Char :=
  if c = '"' then ['\\', '"']
  else if c = '\\' then ['\\', '\\']
  else if c = '\x08' then ['\\', 'b']
  else if c = '\t' then ['\\', 't']
  else if c = '\n' then ['\\', 'n']
  else if c = '\x0c' then ['\\', 'f']
  else if c = '\r' then ['\\', 'r']
  else if c.toNat < 0x20 then charEscape c
  else if style.asciiOnly && 0x7F ≤ c.toNat then charEscape c
  else [c]

/-- Puts `cs` in front of `out`, reversed. -/
def putOnto (out : List Char) (cs : List Char) : List Char :=
  cs.reverse ++ out

/-- A string with its quotes. -/
def Style.textOnto (style : Style) (out : List Char) (s : String) : List Char :=
  '"' :: s.toList.foldl (fun out c => putOnto out (style.char c)) ('"' :: out)

mutual

/-- The text of a value, reversed, in front of `out`. -/
def writeOnto (style : Style) (out : List Char) : Json → List Char
  | .null => putOnto out ['n', 'u', 'l', 'l']
  | .bool true => putOnto out ['t', 'r', 'u', 'e']
  | .bool false => putOnto out ['f', 'a', 'l', 's', 'e']
  | .integer n => putOnto out (toString n).toList
  | .float x => putOnto out (style.numbers.write x).toList
  | .text s => style.textOnto out s
  | .array items => ']' :: itemsOnto style true ('[' :: out) items
  | .object members => '\x7d' :: membersOnto style true ('\x7b' :: out) members

/-- The items of a list, each but the first behind a comma. -/
def itemsOnto (style : Style) (first : Bool) (out : List Char) : List Json → List Char
  | [] => out
  | v :: vs =>
    let out := if first then out else putOnto out style.between
    itemsOnto style false (writeOnto style out v) vs

/-- The members of an object, each but the first behind a comma. -/
def membersOnto (style : Style) (first : Bool) (out : List Char) : Members → List Char
  | [] => out
  | (key, v) :: ms =>
    let out := if first then out else putOnto out style.between
    let out := putOnto (style.textOnto out key) style.afterKey
    membersOnto style false (writeOnto style out v) ms

end

/-- The text of a document in the given style. -/
def write (style : Style) (v : Json) : String :=
  String.ofList (writeOnto style [] v).reverse

/-- The text of a document without blanks. -/
def compact (v : Json) : String :=
  write .compact v

end PipelineWatch.Json
