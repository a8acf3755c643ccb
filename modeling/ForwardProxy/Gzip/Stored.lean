import ForwardProxy.Gzip.Checksum

/-!
# Writing compressed files

A compressed file has a header, blocks, and a trailer with the checksum and the length of the data.
The data is written into blocks that hold it as it is.
-/

namespace ForwardProxy.Gzip

/-- A number in `width` octets, the lowest first. -/
def littleEndian : (width n : Nat) → Bytes
  | 0, _ => []
  | width + 1, n => UInt8.ofNat n :: littleEndian width (n / 256)

/-- The greatest number of octets in a block. -/
def maxBlockSize : Nat := 65535

/-- A block that holds data as it is. -/
def storedBlock (isLast : Bool) (data : Bytes) : Bytes :=
  (if isLast then 1 else 0) :: littleEndian 2 data.length ++
    littleEndian 2 (maxBlockSize - data.length) ++ data

/-- The blocks that hold data as it is. There is always one. -/
def storedBlocks (data : Bytes) : Bytes :=
  let rest := data.drop maxBlockSize
  if _h : rest = [] then storedBlock true data
  else storedBlock false (data.take maxBlockSize) ++ storedBlocks rest
termination_by data.length
decreasing_by
  have hpos := List.length_pos_iff.2 _h
  simp only [rest, List.length_drop, maxBlockSize] at hpos ⊢
  omega

/-- The header of a compressed file without a name or a time. -/
def header : Bytes := [31, 139, 8, 0, 0, 0, 0, 0, 0, 255]

/-- A compressed file with the given data. -/
def compress (data : Bytes) : Bytes :=
  header ++ storedBlocks data ++ littleEndian 4 (checksum data).toNat ++ littleEndian 4 data.length

end ForwardProxy.Gzip
