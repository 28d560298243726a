import PipelineWatch.Url.Domain
import PipelineWatch.Url.Ipv4
import PipelineWatch.Url.Ipv6

/-!
The host of an address: a name, or a number in one of two notations. Names of
special schemes are decoded and brought to their form in ASCII; those of other
schemes are kept and encoded.
-/
namespace PipelineWatch.Url

/-- Where an address leads. -/
inductive Host where
  | empty
  | name (cs : List Char)
  | ipv4 (n : Nat)
  | ipv6 (pieces : List Nat)
deriving DecidableEq, Repr

/-- The text of a host. -/
def Host.write : Host → List Char
  | .empty => []
  | .name cs => cs
  | .ipv4 n => Ipv4.write n
  | .ipv6 pieces => Ipv6.write pieces

/-- What no name of another scheme may contain. -/
def isForbidden (c : Char) : Bool :=
  c.toNat == 0 || c == '\t' || c == '\n' || c == '\r' || c == ' ' || c == '#' || c == '/' ||
    c == ':' || c == '<' || c == '>' || c == '?' || c == '@' || c == '[' || c == '\\' ||
    c == ']' || c == '^' || c == '|'

/-- The name in ASCII that the bytes write. -/
def readName (bytes : List UInt8) : Except Failure (List Char) :=
  match (Text.Utf8.decode bytes).bind Domain.ofText? with
  | none => .error .invalidDomain
  | some name => .ok name

/-- The address between brackets. -/
def bracketed (cs : List Char) : Except Failure Host :=
  match cs.reverse with
  | ']' :: inner => (Ipv6.parse inner.reverse).map .ipv6
  | _ => .error .invalidIpv6

/-- The host of a special scheme. -/
def Host.special : List Char → Except Failure Host
  | '[' :: cs => bracketed cs
  | cs => do
    let name ← readName (percentDecode cs)
    if name.isEmpty then .error .emptyHost
    else if Ipv4.endsInNumber name then (Ipv4.parse name).map .ipv4
    else .ok (.name name)

/-- The host of another scheme. -/
def Host.other : List Char → Except Failure Host
  | [] => .ok .empty
  | '[' :: cs => bracketed cs
  | cs =>
    if cs.any isForbidden then .error .invalidDomainCharacter
    else .ok (.name (percentEncode isControl cs))

end PipelineWatch.Url
