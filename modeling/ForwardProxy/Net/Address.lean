import ForwardProxy.Text.Integer

/-!
# Network addresses

The two kinds of internet address with their texts. An address of the long kind is eight groups of
sixteen bits. Its text leaves out the first of the longest runs of two or more zero groups.
-/

namespace ForwardProxy.Net

/-- An internet address of the short kind. -/
abbrev Ipv4 := BitVec 32

/-- An internet address of the long kind. -/
abbrev Ipv6 := BitVec 128

namespace Ipv4

/-- The four octets, the highest first. -/
def octets (address : Ipv4) : List Nat :=
  [24, 16, 8, 0].map fun shift => (address >>> shift).toNat % 256

/-- The address with the given octets. -/
def ofOctets (octets : List Nat) : Ipv4 :=
  BitVec.ofNat 32 (octets.foldl (fun n octet => n * 256 + octet) 0)

/-- The four octets in decimal, with dots between them. -/
def text (address : Ipv4) : List Char :=
  ['.'].intercalate (address.octets.map (Nat.toDigits 10))

/-- One octet in decimal, without zeros in front. -/
def octet? (piece : List Char) : Option Nat :=
  if piece.head? = some '0' ∧ piece ≠ ['0'] then none
  else if piece.length > 3 then none
  else (Text.natural? piece).filter (· ≤ 255)

/-- Reads four octets in decimal with dots between them. -/
def parse? (text : List Char) : Option Ipv4 := do
  let octets ← (text.splitOn '.').mapM octet?
  guard (octets.length = 4)
  return ofOctets octets

end Ipv4

namespace Ipv6

/-- The eight groups, the highest first. -/
def groups (address : Ipv6) : List Nat :=
  (List.range 8).map fun i => (address >>> (112 - 16 * i)).toNat % 65536

/-- The address with the given groups. -/
def ofGroups (groups : List Nat) : Ipv6 :=
  BitVec.ofNat 128 (groups.foldl (fun n group => n * 65536 + group) 0)

/-- Start and length of the first of the longest runs of zeros. -/
def longestZeroRun (groups : List Nat) : Nat × Nat :=
  (List.range groups.length).foldl
    (fun best start =>
      let run := ((groups.drop start).takeWhile (· == 0)).length
      if run > best.2 then (start, run) else best)
    (0, 0)

/-- Groups in hexadecimal with colons between them. -/
def groupsText (groups : List Nat) : List Char :=
  [':'].intercalate (groups.map (Nat.toDigits 16))

/-- The shortest text in hexadecimal groups. -/
def text (address : Ipv6) : List Char :=
  let (start, run) := longestZeroRun address.groups
  if run < 2 then groupsText address.groups
  else
    groupsText (address.groups.take start) ++ [':', ':'] ++
      groupsText (address.groups.drop (start + run))

/-- The value of a hexadecimal digit. -/
def hexDigit? (c : Char) : Option Nat :=
  if c.isDigit then some (c.toNat - 48)
  else if 'a' ≤ c ∧ c ≤ 'f' then some (c.toNat - 87)
  else if 'A' ≤ c ∧ c ≤ 'F' then some (c.toNat - 55)
  else none

/-- One group: up to four hexadecimal digits. -/
def group? (piece : List Char) : Option Nat := do
  guard (piece ≠ [] ∧ piece.length ≤ 4)
  piece.foldlM (fun n c => (hexDigit? c).map fun d => n * 16 + d) 0

/-- Reads groups with colons between them. If `tail`, the last two may be an address of the short
kind. -/
def groups? (tail : Bool) (text : List Char) : Option (List Nat) :=
  if text.isEmpty then some []
  else
    let pieces := text.splitOn ':'
    let last := pieces.getLastD []
    if tail ∧ last.contains '.' then do
      let front ← pieces.dropLast.mapM group?
      let short ← Ipv4.parse? last
      return front ++ [short.toNat / 65536, short.toNat % 65536]
    else pieces.mapM group?

/-- The parts before and after the first pair of colons. -/
def cutAtGap? : List Char → Option (List Char × List Char)
  | [] => none
  | ':' :: ':' :: rest => some ([], rest)
  | c :: rest => (cutAtGap? rest).map fun p => (c :: p.1, p.2)

/-- Reads an address: eight groups, or fewer with a pair of colons for one zero group or more. -/
def parse? (text : List Char) : Option Ipv6 :=
  match cutAtGap? text with
  | none => do
    let groups ← groups? true text
    guard (groups.length = 8)
    return ofGroups groups
  | some (before, after) => do
    let front ← groups? false before
    let back ← groups? true after
    guard (front.length + back.length ≤ 7)
    return ofGroups (front ++ List.replicate (8 - front.length - back.length) 0 ++ back)

end Ipv6

/-- An internet address of either kind. -/
inductive IpAddress where
  /-- The short kind. -/
  | v4 (address : Ipv4)
  /-- The long kind. -/
  | v6 (address : Ipv6)
  deriving DecidableEq, Hashable

/-- Reads an address of either kind. -/
def IpAddress.parse? (text : List Char) : Option IpAddress :=
  match Ipv4.parse? text with
  | some address => some (.v4 address)
  | none => (Ipv6.parse? text).map .v6

/-- The text of a long address on its own. One that stands for a short address shows it. -/
def Ipv6.displayText (address : Ipv6) : List Char :=
  if address.groups.take 6 = [0, 0, 0, 0, 0, 0xFFFF] then
    "::ffff:".toList ++ Ipv4.text (address.setWidth 32)
  else address.text

/-- An address with a port, and for the long kind the number of the link it is on. -/
structure SocketAddress where
  /-- The address. -/
  ip : IpAddress
  /-- The port. -/
  port : Nat
  /-- The number of the link, zero if it does not matter. -/
  scope : Nat := 0
  deriving DecidableEq

namespace SocketAddress

/-- The address, in brackets if it is of the long kind, a colon, and the port. -/
def text (address : SocketAddress) : List Char :=
  let host :=
    match address.ip with
    | .v4 ip => ip.text
    | .v6 ip =>
      ['['] ++ ip.displayText ++
        (if address.scope = 0 then [] else '%' :: Nat.toDigits 10 address.scope) ++ [']']
  host ++ [':'] ++ Nat.toDigits 10 address.port

/-- Reads a port. -/
def port? (digits : List Char) : Option Nat := (Text.natural? digits).filter (· ≤ 65535)

/-- The greatest number of a link. -/
def maxScope : Nat := 4294967295

/-- Reads an address with a port. -/
def parse? (text : List Char) : Option SocketAddress :=
  match text with
  | '[' :: inner => do
    let host := inner.takeWhile (· ≠ ']')
    let (address, scope) ←
      match host.splitOn '%' with
      | [address] => pure (address, 0)
      | [address, link] => do
        let scope ← (Text.natural? link).filter (· ≤ maxScope)
        pure (address, scope)
      | _ => none
    let ip ← Ipv6.parse? address
    match inner.drop host.length with
    | ']' :: ':' :: digits => do
      let port ← port? digits
      return { ip := .v6 ip, port, scope }
    | _ => none
  | _ =>
    match text.splitOn ':' with
    | [host, digits] => do
      let ip ← Ipv4.parse? host
      let port ← port? digits
      return { ip := .v4 ip, port }
    | _ => none

end SocketAddress

end ForwardProxy.Net
