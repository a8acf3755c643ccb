import ForwardProxy.Text.Bytes

/-!
# The checksum of compressed data

A cyclic redundancy check of 32 bits, lowest bit first: the remainder of the data, as a polynomial
over two elements, modulo a fixed polynomial.
-/

namespace ForwardProxy.Gzip

/-- The polynomial, without its highest term. -/
def polynomial : UInt32 := 0xEDB88320

/-- The remainder after one bit more. -/
def checksumBit (remainder : UInt32) : UInt32 :=
  if remainder &&& 1 = 1 then (remainder >>> 1) ^^^ polynomial else remainder >>> 1

/-- The remainder after `count` bits more. -/
def checksumBits : (count : Nat) → UInt32 → UInt32
  | 0, remainder => remainder
  | count + 1, remainder => checksumBits count (checksumBit remainder)

/-- The remainder after one octet more. -/
def checksumOctet (remainder : UInt32) (b : UInt8) : UInt32 :=
  checksumBits 8 (remainder ^^^ b.toUInt32)

/-- The checksum of an octet string. -/
def checksum (data : Bytes) : UInt32 := ~~~ data.foldl checksumOctet 0xFFFFFFFF

end ForwardProxy.Gzip
