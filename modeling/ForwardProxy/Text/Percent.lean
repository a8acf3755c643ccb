import ForwardProxy.Text.Bytes

/-!
# Percent encoding

An octet is written as a percent sign and two hexadecimal digits. A sign that two such digits do
not follow stands for itself.
-/

namespace ForwardProxy.Percent

/-- The hexadecimal digit for a number below sixteen, in upper case. -/
def hexDigit (n : Nat) : Char :=
  if n < 10 then Char.ofNat (48 + n) else Char.ofNat (55 + n)

/-- The value of a hexadecimal digit of either case. -/
def hexValue? (b : UInt8) : Option UInt8 :=
  if 48 ≤ b ∧ b ≤ 57 then some (b - 48)
  else if 65 ≤ b ∧ b ≤ 70 then some (b - 55)
  else if 97 ≤ b ∧ b ≤ 102 then some (b - 87)
  else none

/-- An octet as a percent sign and two digits. -/
def octet (b : UInt8) : List Char :=
  ['%', hexDigit (b.toNat / 16), hexDigit (b.toNat % 16)]

/-- Percent-encodes the characters in `reserved`, octet by octet, and keeps all others. -/
def encode (reserved : Char → Bool) (text : List Char) : List Char :=
  text.flatMap fun c => if reserved c then (String.utf8EncodeChar c).flatMap octet else [c]

/-- Decodes onto the octets in `done`, which are in reverse. -/
def decodeOnto (done : Bytes) : Bytes → Bytes
  | [] => done.reverse
  | 37 :: high :: low :: rest =>
    match hexValue? high, hexValue? low with
    | some h, some l => decodeOnto ((h * 16 + l) :: done) rest
    | _, _ => decodeOnto (37 :: done) (high :: low :: rest)
  | b :: rest => decodeOnto (b :: done) rest

/-- Replaces each percent sign with two hexadecimal digits by the octet that they name. -/
def decode (data : Bytes) : Bytes := decodeOnto [] data

end ForwardProxy.Percent
