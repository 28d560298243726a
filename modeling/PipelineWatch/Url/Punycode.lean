/-!
Punycode: a text with the letters `a` to `z`, digits and hyphens only. What is
ASCII stands in front. Behind the last hyphen, numbers say where the other
characters go, in rising order, each as the distance from the one before it.
The digits of a number begin with the lowest, and how far each one reaches
follows the numbers seen so far.
-/
namespace PipelineWatch.Url.Punycode

/-- The value of a digit: letters first, then the ten digits. -/
def digitValue? (c : Char) : Option Nat :=
  if 'a' ≤ c ∧ c ≤ 'z' then some (c.toNat - 'a'.toNat)
  else if '0' ≤ c ∧ c ≤ '9' then some (c.toNat - '0'.toNat + 26)
  else none

/-- The digit of a value below 36. -/
def digit (value : Nat) : Char :=
  if value < 26 then Char.ofNat ('a'.toNat + value) else Char.ofNat ('0'.toNat + (value - 26))

/-- The least value at a place with which a number goes on. Places are counted
in steps of 36, from 36. -/
def threshold (bias place : Nat) : Nat :=
  if place ≤ bias then 1 else if bias + 26 ≤ place then 26 else place - bias

/-- `delta` made small enough for `adapt`, and the steps of 36 that took. -/
def shrink (delta steps : Nat) : Nat × Nat :=
  if 455 < delta then shrink (delta / 35) (steps + 36) else (delta, steps)
termination_by delta
decreasing_by exact Nat.div_lt_self (by omega) (by omega)

/-- The bias behind a number `delta`, with `count` characters in place. The first
number of all is far larger than those that follow it. -/
def adapt (delta count : Nat) (isFirst : Bool) : Nat :=
  let delta := if isFirst then delta / 700 else delta / 2
  let (delta, steps) := shrink (delta + delta / count) 0
  steps + 36 * delta / (delta + 38)

/-- All numbers on the way are below this one. -/
def limit : Nat := 0x100000000

/-- The number at the start of a text, added to `sum`, and what follows it. -/
def takeNumber (bias : Nat) : List Char → Nat → Nat → Nat → Option (Nat × List Char)
  | [], _, _, _ => none
  | c :: cs, place, weight, sum =>
    match digitValue? c with
    | none => none
    | some value =>
      let sum := sum + value * weight
      let weight' := weight * (36 - threshold bias place)
      if limit ≤ sum then none
      else if value < threshold bias place then some (sum, cs)
      else if limit ≤ weight' then none
      else takeNumber bias cs (place + 36) weight' sum

/-- A number takes at least one digit. -/
theorem length_lt_of_takeNumber {bias : Nat} {cs rest : List Char} {place weight sum sum' : Nat}
    (h : takeNumber bias cs place weight sum = some (sum', rest)) : rest.length < cs.length := by
  induction cs generalizing place weight sum with
  | nil => simp [takeNumber] at h
  | cons c cs ih =>
    simp only [takeNumber] at h
    split at h
    · cases h
    · split at h
      · cases h
      · split at h
        · simp_all
        · split at h
          · cases h
          · exact Nat.lt_succ_of_lt (ih h)

/-- Puts characters into `done` as the text says. The last one put was of number
`code`, and `place` is the one behind it. -/
def insertAll (bias code place : Nat) (done : List Char) (cs : List Char) : Option (List Char) :=
  if cs.isEmpty then some done
  else
    match _ : takeNumber bias cs 36 1 place with
    | none => none
    | some (sum, rest) =>
      let count := done.length + 1
      let code' := code + sum / count
      if code'.isValidChar then
        insertAll (adapt (sum - place) count (place == 0)) code' (sum % count + 1)
          (done.insertIdx (sum % count) (Char.ofNat code')) rest
      else none
termination_by cs.length
decreasing_by exact length_lt_of_takeNumber ‹_›

/-- What stands before the last hyphen, and what follows it. A hyphen that has
nothing before it is no such one. -/
def halves (cs : List Char) : List Char × List Char :=
  match cs.reverse.span (· != '-') with
  | (numbers, _ :: basic) => if basic.isEmpty then ([], cs) else (basic.reverse, numbers.reverse)
  | (_, []) => ([], cs)

/-- The text that `cs` stands for. -/
def decode (cs : List Char) : Option (List Char) :=
  let (basic, numbers) := halves cs
  insertAll 72 0x80 0 basic numbers

/-- A number in digits. -/
def writeNumber (bias place n : Nat) : List Char :=
  let least := threshold bias place
  if n < least then [digit n]
  else
    digit (least + (n - least) % (36 - least)) ::
      writeNumber bias (place + 36) ((n - least) / (36 - least))
termination_by n
decreasing_by
  have : 1 ≤ threshold bias place := by unfold threshold; split <;> (try split) <;> omega
  exact Nat.lt_of_le_of_lt (Nat.div_le_self _ _) (by omega)

/-- A text that is being written: its digits so far, last first, the distance from
the last number, the bias, and how many characters are in place. -/
structure Writing where
  digits : List Char
  delta : Nat
  bias : Nat
  count : Nat

/-- One character of the text is passed while those of number `code` are written.
`first` is the count that the writing began with. -/
def Writing.pass (first code : Nat) (w : Writing) (c : Char) : Writing :=
  if c.toNat < code then { w with delta := w.delta + 1 }
  else if c.toNat = code then
    { digits := (writeNumber w.bias 36 w.delta).reverse ++ w.digits
      delta := 0
      bias := adapt w.delta (w.count + 1) (w.count == first)
      count := w.count + 1 }
  else w

/-- The numbers of all characters of `cs` whose own numbers are in `codes`, which
rise. All below `next` are written. -/
def writeAll (cs : List Char) (first : Nat) : List Nat → Nat → Writing → Writing
  | [], _, w => w
  | code :: codes, next, w =>
    let w := { w with delta := w.delta + (code - next) * (w.count + 1) }
    let w := cs.foldl (Writing.pass first code) w
    writeAll cs first codes (code + 1) { w with delta := w.delta + 1 }

/-- The numbers of the characters beyond ASCII, each once, in rising order. -/
def codes (cs : List Char) : List Nat :=
  (((cs.map Char.toNat).filter (0x80 ≤ ·)).mergeSort (· ≤ ·)).eraseReps

/-- The text that stands for `cs`. -/
def encode (cs : List Char) : List Char :=
  let basic := cs.filter fun c => c.toNat < 0x80
  let front := if basic.isEmpty then [] else basic ++ ['-']
  front ++ (writeAll cs basic.length (codes cs) 0x80 ⟨[], 0, 72, basic.length⟩).digits.reverse

end PipelineWatch.Url.Punycode
