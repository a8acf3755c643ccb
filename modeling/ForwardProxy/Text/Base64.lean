import ForwardProxy.Text.Bytes

/-!
# Base64

Three octets are written as four characters of six bits each. Equals signs stand for what is missing
from the last three.
-/

namespace ForwardProxy.Base64

/-- The sixty-four characters, by value. -/
def alphabet : List Char :=
  "ABCDEFGHIJKLMNOPQRSTUVWXYZabcdefghijklmnopqrstuvwxyz0123456789+/".toList

/-- The character for a number below sixty-four. -/
def char (n : Nat) : Char := alphabet.getD (n % 64) 'A'

/-- The written form of an octet string. -/
def encode : Bytes → List Char
  | a :: b :: c :: rest =>
    let n := a.toNat * 65536 + b.toNat * 256 + c.toNat
    char (n / 262144) :: char (n / 4096) :: char (n / 64) :: char n :: encode rest
  | [a, b] =>
    let n := a.toNat * 65536 + b.toNat * 256
    [char (n / 262144), char (n / 4096), char (n / 64), '=']
  | [a] =>
    let n := a.toNat * 65536
    [char (n / 262144), char (n / 4096), '=', '=']
  | [] => []

end ForwardProxy.Base64
