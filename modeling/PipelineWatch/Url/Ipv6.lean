import PipelineWatch.Url.Failure
import PipelineWatch.Url.Percent

/-!
IPv6 addresses between brackets: eight pieces of 16 bits. Once, two colons may
stand for a row of zero pieces, and the last two pieces may be written as an IPv4
address. The written form puts two colons for the longest row of zeros.
-/
namespace PipelineWatch.Url.Ipv6

/-- The pieces read so far, last first, and how many of them stand before the
gap, if there was one. -/
structure Progress where
  pieces : List Nat
  gap : Option Nat

/-- Puts a piece behind the others. -/
def Progress.push (p : Progress) (n : Nat) : Progress :=
  { p with pieces := n :: p.pieces }

/-- Two colons: a zero piece, and the gap behind it. -/
def Progress.open (p : Progress) : Progress :=
  { pieces := 0 :: p.pieces, gap := some (p.pieces.length + 1) }

/-- The eight pieces of the address. The gap takes as many zeros as are missing;
without one nothing may be missing. -/
def Progress.finish (p : Progress) : Except Failure (List Nat) :=
  let pieces := p.pieces.reverse
  match p.gap with
  | some n => .ok (pieces.take n ++ List.replicate (8 - pieces.length) 0 ++ pieces.drop n)
  | none => if pieces.length = 8 then .ok pieces else .error .invalidIpv6

/-- Takes up to `width` digits of base sixteen that continue `value`, and counts
them. -/
def takeHex : Nat → Nat → Nat → List Char → Nat × Nat × List Char
  | 0, value, count, cs => (value, count, cs)
  | _ + 1, value, count, [] => (value, count, [])
  | width + 1, value, count, c :: cs =>
    match hexValue? c with
    | some d => takeHex width (value * 16 + d) (count + 1) cs
    | none => (value, count, c :: cs)

/-- Reads the digits of a byte that continue `value`: none behind a zero. -/
def takeByte (value : Option Nat) : List Char → Except Failure (Nat × List Char)
  | [] =>
    match value with
    | some n => .ok (n, [])
    | none => .error .invalidIpv6
  | c :: cs =>
    if '0' ≤ c ∧ c ≤ '9' then
      let d := c.toNat - '0'.toNat
      match value with
      | none => takeByte (some d) cs
      | some n =>
        if n = 0 ∨ 255 < n * 10 + d then .error .invalidIpv6
        else takeByte (some (n * 10 + d)) cs
    else
      match value with
      | some n => .ok (n, c :: cs)
      | none => .error .invalidIpv6

/-- Passes over a dot. -/
def takeDot : List Char → Except Failure (List Char)
  | [] => .error .invalidIpv6
  | c :: cs => if c = '.' then .ok cs else .error .invalidIpv6

/-- The last two pieces, written as four bytes between dots. -/
def readBytes (p : Progress) (cs : List Char) : Except Failure (List Nat) := do
  let (a, cs) ← takeByte none cs
  let cs ← takeDot cs
  let (b, cs) ← takeByte none cs
  let cs ← takeDot cs
  let (c, cs) ← takeByte none cs
  let cs ← takeDot cs
  let (d, cs) ← takeByte none cs
  if cs.isEmpty ∧ p.pieces.length ≤ 6 then
    ((p.push (a * 256 + b)).push (c * 256 + d)).finish
  else .error .invalidIpv6

/-- Reads the pieces that follow, at most `fuel`. -/
def readPieces : Nat → Progress → List Char → Except Failure (List Nat)
  | _, p, [] => p.finish
  | 0, _, _ :: _ => .error .invalidIpv6
  | fuel + 1, p, c :: cs =>
    if p.pieces.length = 8 then .error .invalidIpv6
    else if c = ':' then
      if p.gap.isSome then .error .invalidIpv6 else readPieces fuel p.open cs
    else
      let (value, count, rest) := takeHex 4 0 0 (c :: cs)
      match rest with
      | [] => (p.push value).finish
      | d :: rest' =>
        if d = '.' then
          if count = 0 then .error .invalidIpv6 else readBytes p (c :: cs)
        else if d = ':' then
          if rest'.isEmpty then .error .invalidIpv6 else readPieces fuel (p.push value) rest'
        else .error .invalidIpv6

/-- The pieces of the address that stands between brackets. -/
def parse : List Char → Except Failure (List Nat)
  | ':' :: ':' :: cs => readPieces cs.length (Progress.open ⟨[], none⟩) cs
  | ':' :: _ => .error .invalidIpv6
  | c :: d :: cs => readPieces (cs.length + 2) ⟨[], none⟩ (c :: d :: cs)
  | _ => .error .invalidIpv6

/-- How many zeros stand in front. -/
def leadingZeros (pieces : List Nat) : Nat :=
  (pieces.takeWhile (· == 0)).length

/-- Where the longest row of zeros starts and how long it is, the first one of
equally long ones. `index` is the place of the first piece. -/
def longestZeros (index : Nat) : List Nat → Nat × Nat
  | [] => (index, 0)
  | n :: rest =>
    let here := leadingZeros (n :: rest)
    let (start, length) := longestZeros (index + 1) rest
    if length ≤ here then (index, here) else (start, length)

/-- Pieces between colons. -/
def joinPieces : List Nat → List Char
  | [] => []
  | [n] => Nat.toDigits 16 n
  | n :: rest => Nat.toDigits 16 n ++ ':' :: joinPieces rest

/-- An address between brackets. A zero that stands alone is written out. -/
def write (pieces : List Nat) : List Char :=
  let (start, length) := longestZeros 0 pieces
  let text :=
    if length < 2 then joinPieces pieces
    else
      joinPieces (pieces.take start) ++ ':' :: ':' :: joinPieces (pieces.drop (start + length))
  '[' :: text ++ [']']

end PipelineWatch.Url.Ipv6
