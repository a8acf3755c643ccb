import ForwardProxy.Text.Percent
import ForwardProxy.Text.Utf8

/-!
# Form-encoded pairs

A query may hold pairs of a name and a value, with ampersands between the pairs and an equals sign
in each. Spaces are written as plus signs, and all octets but letters, digits and four signs are
percent-encoded.
-/

namespace ForwardProxy.Url.Form

/-- An octet that is written as it is. -/
def isPlain (b : UInt8) : Bool :=
  (48 ≤ b && b ≤ 57) || (65 ≤ b && b ≤ 90) || (97 ≤ b && b ≤ 122) ||
    b == 42 || b == 45 || b == 46 || b == 95

/-- The written form of one octet. -/
def writtenOctet (b : UInt8) : List Char :=
  if isPlain b then [Char.ofNat b.toNat] else if b = 32 then ['+'] else Percent.octet b

/-- The written form of a name or a value. -/
def writtenText (text : List Char) : Bytes :=
  ((Utf8.encode text).flatMap writtenOctet).map fun c => c.toNat.toUInt8

/-- The written form of a list of pairs. -/
def written (pairs : List (List Char × List Char)) : Bytes :=
  [(38 : UInt8)].intercalate (pairs.map fun pair => writtenText pair.1 ++ [61] ++ writtenText pair.2)

/-- Reads a name or a value. -/
def readText (data : Bytes) : List Char :=
  Utf8.decodeLossy (Percent.decode (data.map fun b => if b = 43 then 32 else b))

/-- Reads a pair. One without an equals sign has an empty value. -/
def readPair (data : Bytes) : List Char × List Char :=
  let name := data.takeWhile (· ≠ 61)
  (readText name, readText (data.drop (name.length + 1)))

/-- Reads the pairs of a query, without those that are empty. -/
def read (query : Bytes) : List (List Char × List Char) :=
  ((query.splitOn 38).filter (!·.isEmpty)).map readPair

/-- The value of the first pair with a name. -/
def value? (name : List Char) (query : Bytes) : Option (List Char) :=
  ((read query).find? (·.1 == name)).map (·.2)

end ForwardProxy.Url.Form
