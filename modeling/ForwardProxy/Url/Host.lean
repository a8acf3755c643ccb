import ForwardProxy.Text.Percent
import ForwardProxy.Url.Basic
import ForwardProxy.Url.Domain.Name

/-!
# Hosts of web addresses

A host in brackets is an address of the long kind. For the schemes of the web, any other host is a
domain name once it is percent-decoded, and an address of the short kind if its last label is a
number. For other schemes it is text.
-/

namespace ForwardProxy.Url

/-- A control of ASCII, or a character outside ASCII. -/
def isControlOrForeign (c : Char) : Bool := c.toNat < 32 || c.toNat ≥ 127

/-- Reads one number of an address: hexadecimal after `0x`, octal after `0`, decimal otherwise. A
lone prefix counts as zero. -/
def ipv4Number? (piece : List Char) : Option Nat :=
  let read := fun (base : Nat) (isDigit : Char → Bool) (digits : List Char) =>
    if digits.all isDigit then
      some (digits.foldl (fun n c => n * base + (Net.Ipv6.hexDigit? c).getD 0) 0)
    else none
  match piece with
  | [] => none
  | '0' :: 'x' :: digits => read 16 (fun c => (Net.Ipv6.hexDigit? c).isSome) digits
  | '0' :: 'X' :: digits => read 16 (fun c => (Net.Ipv6.hexDigit? c).isSome) digits
  | '0' :: d :: digits => read 8 (fun c => '0' ≤ c && c ≤ '7') (d :: digits)
  | digits => read 10 Char.isDigit digits

/-- The labels of a name without an empty one at the end. -/
def labelsOf (name : List Char) : List (List Char) :=
  let labels := name.splitOn '.'
  if labels.getLast? = some [] then labels.dropLast else labels

/-- Whether the last label of a name is a number. -/
def endsInNumber (name : List Char) : Bool :=
  match (labelsOf name).getLast? with
  | none => false
  | some label =>
    (!label.isEmpty && label.all Char.isDigit) || (ipv4Number? label).isSome

/-- Reads an address of the short kind: up to four numbers, of which the last fills what the others
leave. -/
def ipv4? (name : List Char) : Option Net.Ipv4 := do
  let labels := labelsOf name
  guard (labels.length ≤ 4)
  let numbers ← labels.mapM ipv4Number?
  let last ← numbers.getLast?
  let front := numbers.dropLast
  let places := Nat.pow 256 (4 - front.length)
  guard (last < places ∧ front.all (· ≤ 255))
  return BitVec.ofNat 32 (front.foldl (fun total n => total * 256 + n) 0 * places + last)

/-- Reads a host in brackets. -/
def bracketed (text : List Char) : Except ParseError Host :=
  if text.getLast? ≠ some ']' then .error .invalidIpv6Address
  else
    match Net.Ipv6.parse? (text.drop 1).dropLast with
    | some address => .ok (.v6 address)
    | none => .error .invalidIpv6Address

/-- Reads the host of an address whose scheme is one of the web. -/
def Host.parse (text : List Char) : Except ParseError Host :=
  if text.head? = some '[' then bracketed text
  else
    match Utf8.decode? (Percent.decode (Utf8.encode text)) with
    | none => .error .idna
    | some decoded =>
      match Domain.written? decoded with
      | none => .error .idna
      | some ascii =>
        if ascii.isEmpty then .error .emptyHost
        else if endsInNumber ascii then
          match ipv4? ascii with
          | some address => .ok (.v4 address)
          | none => .error .invalidIpv4Address
        else .ok (.name ascii)

/-- The characters that no host may hold, whatever the scheme. -/
def forbiddenInHost : List Char := "\x00\t\n\r #/:<>?@[\\]^|".toList

/-- Reads the host of an address with any other scheme. -/
def Host.parseOpaque (text : List Char) : Except ParseError Host :=
  if text.head? = some '[' then bracketed text
  else if text.any forbiddenInHost.contains then .error .invalidDomainCharacter
  else .ok (.name (Percent.encode isControlOrForeign text))

end ForwardProxy.Url
