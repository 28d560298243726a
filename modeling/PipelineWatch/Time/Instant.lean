import PipelineWatch.Text.Blank
import PipelineWatch.Time.Calendar

/-!
Instants and how they are read from text: either with an offset, in the fixed
form of RFC 3339, or without one, in a form that leaves the width of each number
open and takes the time as universal.
-/
namespace PipelineWatch.Time

/-- An instant: whole seconds from the start of 1970 and nanoseconds. In a leap
second the nanoseconds go on past `10 ^ 9`. -/
structure Instant where
  seconds : Int
  nanos : Nat
deriving DecidableEq, Repr

/-- How two instants stand to each other in time. A leap second lies before the
second that follows it. -/
def Instant.compare : Instant → Instant → Ordering :=
  compareLex (compareOn Instant.seconds) (compareOn Instant.nanos)

/-- A value and the characters behind it. -/
abbrev Parsed (α : Type) := Option (α × List Char)

/-- The value of an ASCII digit. -/
def digitValue? (c : Char) : Option Nat :=
  if '0' ≤ c ∧ c ≤ '9' then some (c.toNat - '0'.toNat) else none

/-- Takes up to `width` digits that continue `value`. -/
def takeDigits : Nat → Nat → List Char → Nat × List Char
  | 0, value, cs => (value, cs)
  | _ + 1, value, [] => (value, [])
  | width + 1, value, c :: cs =>
    match digitValue? c with
    | some d => takeDigits width (value * 10 + d) cs
    | none => (value, c :: cs)

/-- A number of at least `least` and at most `most` digits. -/
def number? (least most : Nat) (cs : List Char) : Parsed Nat :=
  let (value, rest) := takeDigits most 0 cs
  if least ≤ cs.length - rest.length then some (value, rest) else none

/-- Passes over the character `c`. -/
def literal? (c : Char) : List Char → Option (List Char)
  | [] => none
  | d :: rest => if d = c then some rest else none

/-- The nanoseconds behind a point, or none if there is no point. Digits past the
ninth are dropped. -/
def fraction? : List Char → Parsed Nat
  | '.' :: cs =>
    match number? 1 9 cs with
    | some (value, rest) =>
      some (value * Nat.pow 10 (9 - (cs.length - rest.length)),
        rest.dropWhile fun c => (digitValue? c).isSome)
    | none => none
  | cs => some (0, cs)

/-- The time of a day. Second 60 is a leap second. -/
structure Clock where
  hour : Nat
  minute : Nat
  second : Nat
  nanos : Nat
deriving DecidableEq, Repr

/-- Whether there is such a time. -/
def Clock.isValid (t : Clock) : Bool :=
  t.hour ≤ 23 && t.minute ≤ 59 && t.second ≤ 60

/-- The instant of a day and time, read as universal time. -/
def Instant.ofParts? (d : Date) (t : Clock) : Option Instant :=
  if d.isValid && t.isValid then
    let second := min t.second 59
    some
      { seconds := d.dayNumber * 86400 + (t.hour * 3600 + t.minute * 60 + second : Nat)
        nanos := t.nanos + (t.second - second) * Nat.pow 10 9 }
  else none

/-- An offset from universal time in seconds: `Z`, or a sign with hours and
minutes, less than a day either way. The minus sign of typography counts as a
minus. -/
def offset? : List Char → Parsed Int
  | [] => none
  | c :: cs =>
    if c = 'Z' ∨ c = 'z' then some (0, cs)
    else if c = '+' then magnitude cs
    else if c = '-' ∨ c = '−' then (magnitude cs).map fun (n, rest) => (-n, rest)
    else none
where
  /-- Hours and minutes. -/
  magnitude (cs : List Char) : Option (Int × List Char) := do
    let (hours, cs) ← number? 2 2 cs
    let cs ← literal? ':' cs
    let (minutes, cs) ← number? 2 2 cs
    if hours ≤ 23 ∧ minutes ≤ 59 then some ((hours * 60 + minutes) * 60, cs) else none

/-- The separator between day and time. -/
def separator? : List Char → Option (List Char)
  | [] => none
  | c :: cs => if c = 'T' ∨ c = 't' ∨ c = ' ' then some cs else none

/-- An instant with an offset: `2026-02-07T21:00:00.5+02:00`. Every number has
its full width. -/
def withOffset? (cs : List Char) : Option Instant := do
  let (year, cs) ← number? 4 4 cs
  let cs ← literal? '-' cs
  let (month, cs) ← number? 2 2 cs
  let cs ← literal? '-' cs
  let (day, cs) ← number? 2 2 cs
  let cs ← separator? cs
  let (hour, cs) ← number? 2 2 cs
  let cs ← literal? ':' cs
  let (minute, cs) ← number? 2 2 cs
  let cs ← literal? ':' cs
  let (second, cs) ← number? 2 2 cs
  let (nanos, cs) ← fraction? cs
  let (offset, cs) ← offset? cs
  if cs.isEmpty then
    let shown ← Instant.ofParts? ⟨year, month, day⟩ ⟨hour, minute, second, nanos⟩
    some { shown with seconds := shown.seconds - offset }
  else none

/-- A number of one or two digits, with blanks in front. -/
def looseNumber? (cs : List Char) : Parsed Nat :=
  number? 1 2 (Text.trimFront cs)

/-- A year with blanks in front: up to four digits, or any number of them behind
a sign. -/
def looseYear? (cs : List Char) : Parsed Int :=
  match Text.trimFront cs with
  | [] => none
  | c :: cs =>
    if c = '-' then (number? 1 cs.length cs).map fun (n, rest) => (-n, rest)
    else if c = '+' then (number? 1 cs.length cs).map fun (n, rest) => (n, rest)
    else (number? 1 4 (c :: cs)).map fun (n, rest) => (n, rest)

/-- An instant without an offset: `2026-02-07T21:00:00.5`. Every number may be
shorter and have blanks in front. -/
def withoutOffset? (cs : List Char) : Option Instant := do
  let (year, cs) ← looseYear? cs
  let cs ← literal? '-' cs
  let (month, cs) ← looseNumber? cs
  let cs ← literal? '-' cs
  let (day, cs) ← looseNumber? cs
  let cs ← literal? 'T' cs
  let (hour, cs) ← looseNumber? cs
  let cs ← literal? ':' cs
  let (minute, cs) ← looseNumber? cs
  let cs ← literal? ':' cs
  let (second, cs) ← looseNumber? cs
  let (nanos, cs) ← fraction? cs
  if cs.isEmpty then Instant.ofParts? ⟨year, month, day⟩ ⟨hour, minute, second, nanos⟩
  else none

/-- The instant that a text names, blanks around it aside. -/
def Instant.parse? (s : String) : Option Instant :=
  let cs := Text.trimChars s.toList
  (withOffset? cs).or (withoutOffset? cs)

end PipelineWatch.Time
