import ForwardProxy.Gzip.Stored

/-!
# Reading compressed files

The data is read back from blocks of three kinds: stored as it is, written in a fixed prefix code,
or in a prefix code that the block itself describes. Besides single octets, the codes have symbols
for repeating a stretch of what was read before.

A prefix code is kept in canonical form: how many code words there are of each length, and the
symbols in the order of their code words.
-/

namespace ForwardProxy.Gzip

/-- What is left to read: bits of an octet that was begun, the lowest first, and octets. -/
structure BitSource where
  /-- The bits that are left of the octet that was begun. -/
  pending : Nat := 0
  /-- How many they are. -/
  count : Nat := 0
  /-- The octets after it. -/
  rest : Bytes

/-- A reader of bits, which may fail. -/
abbrev BitReader := StateT BitSource Option

/-- Reads one bit. -/
def bit : BitReader Nat := do
  let source ← get
  if source.count = 0 then
    match source.rest with
    | [] => failure
    | b :: rest =>
      set ({ pending := b.toNat / 2, count := 7, rest } : BitSource)
      return b.toNat % 2
  else
    set { source with pending := source.pending / 2, count := source.count - 1 }
    return source.pending % 2

/-- Reads a number of `width` bits, the lowest first. -/
def bits : (width : Nat) → BitReader Nat
  | 0 => return 0
  | width + 1 => do
    let low ← bit
    let high ← bits width
    return low + 2 * high

/-- Reads a whole octet, dropping the bits of the one that was begun. -/
def octet : BitReader UInt8 := do
  let source ← get
  match source.rest with
  | [] => failure
  | b :: rest =>
    set ({ rest } : BitSource)
    return b

/-- Reads `count` numbers one after another. -/
def readMany (read : BitReader Nat) : (count : Nat) → BitReader (List Nat)
  | 0 => return []
  | count + 1 => do
    let n ← read
    let rest ← readMany read count
    return n :: rest

/-- A prefix code in canonical form. -/
structure PrefixCode where
  /-- How many code words have one bit, two bits and so on. -/
  counts : List Nat
  /-- The symbols in the order of their code words. -/
  symbols : Array Nat

/-- The greatest number of bits in a code word. -/
def maxCodeLength : Nat := 15

/-- The code in which each symbol has a code word of the given length, zero for no code word. -/
def PrefixCode.ofLengths (lengths : List Nat) : PrefixCode where
  counts := (List.range maxCodeLength).map fun i => lengths.count (i + 1)
  symbols :=
    ((List.range maxCodeLength).flatMap fun i =>
      (lengths.zipIdx.filter (·.1 == i + 1)).map (·.2)).toArray

/-- Reads the rest of a code word. `code` holds the bits so far, `first` the first code word of that
many bits, and `index` the place of its symbol. -/
def PrefixCode.readFrom (symbols : Array Nat) :
    (counts : List Nat) → (code first index : Nat) → BitReader Nat
  | [], _, _, _ => failure
  | count :: counts, code, first, index => do
    let code := code + (← bit)
    if code < first + count then
      match symbols[index + (code - first)]? with
      | some symbol => return symbol
      | none => failure
    else readFrom symbols counts (2 * code) (2 * (first + count)) (index + count)

/-- Reads a symbol. -/
def PrefixCode.read (code : PrefixCode) : BitReader Nat := readFrom code.symbols code.counts 0 0 0

/-- The fixed code for octets and lengths. -/
def fixedLengthCode : PrefixCode :=
  .ofLengths (List.replicate 144 8 ++ List.replicate 112 9 ++ List.replicate 24 7 ++
    List.replicate 8 8)

/-- The fixed code for distances. -/
def fixedDistanceCode : PrefixCode := .ofLengths (List.replicate 30 5)

/-- The least length, and how many bits add to it, for each symbol of a length. -/
def lengthSymbols : Array (Nat × Nat) :=
  #[(3, 0), (4, 0), (5, 0), (6, 0), (7, 0), (8, 0), (9, 0), (10, 0), (11, 1), (13, 1), (15, 1),
    (17, 1), (19, 2), (23, 2), (27, 2), (31, 2), (35, 3), (43, 3), (51, 3), (59, 3), (67, 4),
    (83, 4), (99, 4), (115, 4), (131, 5), (163, 5), (195, 5), (227, 5), (258, 0)]

/-- The least distance, and how many bits add to it, for each symbol of a distance. -/
def distanceSymbols : Array (Nat × Nat) :=
  #[(1, 0), (2, 0), (3, 0), (4, 0), (5, 1), (7, 1), (9, 2), (13, 2), (17, 3), (25, 3), (33, 4),
    (49, 4), (65, 5), (97, 5), (129, 6), (193, 6), (257, 7), (385, 7), (513, 8), (769, 8),
    (1025, 9), (1537, 9), (2049, 10), (3073, 10), (4097, 11), (6145, 11), (8193, 12), (12289, 12),
    (16385, 13), (24577, 13)]

/-- Reads the number that a symbol and the bits after it give. -/
def readExtended (table : Array (Nat × Nat)) (symbol : Nat) : BitReader Nat :=
  match table[symbol]? with
  | some (least, width) => do return least + (← bits width)
  | none => failure

/-- Repeats `count` octets from `distance` octets back. -/
def repeatBack (distance : Nat) : (count : Nat) → Array UInt8 → Array UInt8
  | 0, out => out
  | count + 1, out => repeatBack distance count (out.push (out.getD (out.size - distance) 0))

/-- Reads symbols up to the end of a block, at most `fuel` of them. -/
def readSymbols (lengths distances : PrefixCode) :
    (fuel : Nat) → Array UInt8 → BitReader (Array UInt8)
  | 0, _ => failure
  | fuel + 1, out => do
    let symbol ← lengths.read
    if symbol < 256 then readSymbols lengths distances fuel (out.push (UInt8.ofNat symbol))
    else if symbol = 256 then return out
    else
      let length ← readExtended lengthSymbols (symbol - 257)
      let distance ← readExtended distanceSymbols (← distances.read)
      if out.size < distance then failure
      else readSymbols lengths distances fuel (repeatBack distance length out)

/-- The order in which a block gives the lengths of the code words for lengths. -/
def lengthOrder : List Nat :=
  [16, 17, 18, 0, 8, 7, 9, 6, 10, 5, 11, 4, 12, 3, 13, 2, 14, 1, 15]

/-- Reads `wanted` lengths of code words, some of them as repetitions, at most `fuel` symbols. -/
def readLengths (code : PrefixCode) (wanted : Nat) :
    (fuel : Nat) → (read : List Nat) → BitReader (List Nat)
  | 0, _ => failure
  | fuel + 1, read => do
    if wanted = read.length then return read.reverse
    else if wanted < read.length then failure
    else
      let symbol ← code.read
      if symbol < 16 then readLengths code wanted fuel (symbol :: read)
      else if symbol = 16 then
        let count ← bits 2
        match read with
        | [] => failure
        | last :: _ => readLengths code wanted fuel (List.replicate (count + 3) last ++ read)
      else
        let count ← if symbol = 17 then (· + 3) <$> bits 3 else (· + 11) <$> bits 7
        readLengths code wanted fuel (List.replicate count 0 ++ read)

/-- Reads the two codes that a block describes. -/
def readCodes : BitReader (PrefixCode × PrefixCode) := do
  let lengthCount := (← bits 5) + 257
  let distanceCount := (← bits 5) + 1
  let orderCount := (← bits 4) + 4
  let given ← readMany (bits 3) orderCount
  let pairs := lengthOrder.zip given
  let code := PrefixCode.ofLengths ((List.range 19).map fun symbol => (pairs.lookup symbol).getD 0)
  let wanted := lengthCount + distanceCount
  let lengths ← readLengths code wanted (wanted + 1) []
  return (.ofLengths (lengths.take lengthCount), .ofLengths (lengths.drop lengthCount))

/-- Reads a number of two octets. -/
def readShort : BitReader Nat := do
  let low ← octet
  let high ← octet
  return low.toNat + 256 * high.toNat

/-- Reads a block that holds data as it is. -/
def readStored (out : Array UInt8) : BitReader (Array UInt8) := do
  let length ← readShort
  let complement ← readShort
  let source ← get
  if length + complement ≠ maxBlockSize ∨ source.rest.length < length then failure
  else
    set ({ rest := source.rest.drop length } : BitSource)
    return out ++ source.rest.take length

/-- Reads blocks up to the last one, at most `fuel` of them. Each block has at most `symbols`
symbols. -/
def readBlocks (symbols : Nat) : (fuel : Nat) → Array UInt8 → BitReader (Array UInt8)
  | 0, _ => failure
  | fuel + 1, out => do
    let last ← bit
    let kind ← bits 2
    let out ←
      match kind with
      | 0 => readStored out
      | 1 => readSymbols fixedLengthCode fixedDistanceCode symbols out
      | 2 => do
        let (lengths, distances) ← readCodes
        readSymbols lengths distances symbols out
      | _ => failure
    if last = 1 then return out else readBlocks symbols fuel out

/-- What follows a text that ends in a zero octet. -/
def afterText? (data : Bytes) : Option Bytes :=
  match data.dropWhile (· ≠ 0) with
  | _ :: rest => some rest
  | [] => none

/-- What follows the header of a compressed file. -/
def afterHeader? : Bytes → Option Bytes
  | 31 :: 139 :: 8 :: flags :: _ :: _ :: _ :: _ :: _ :: _ :: rest => do
    let has := fun (flag : UInt8) => flags &&& flag ≠ 0
    let rest ←
      if has 4 then
        match rest with
        | low :: high :: rest =>
          let length := low.toNat + 256 * high.toNat
          if rest.length < length then none else some (rest.drop length)
        | _ => none
      else some rest
    let rest ← if has 8 then afterText? rest else some rest
    let rest ← if has 16 then afterText? rest else some rest
    if has 2 then (if rest.length < 2 then none else some (rest.drop 2)) else some rest
  | _ => none

/-- The data in a compressed file, if it is one. The checksum and the length have to agree. -/
def decompress? (file : Bytes) : Option Bytes := do
  let rest ← afterHeader? file
  let bound := 8 * rest.length
  let (out, source) ← (readBlocks bound bound #[]).run { rest }
  let data := out.toList
  guard (source.rest.take 8 =
    littleEndian 4 (checksum data).toNat ++ littleEndian 4 data.length)
  return data

end ForwardProxy.Gzip
