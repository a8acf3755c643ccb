/-!
# Octet strings

Messages, header values and stored responses are strings of octets. This file fixes their type and
the two ways in which the library cuts them: at the first occurrence of a separator, and at every
occurrence of one.
-/

namespace ForwardProxy

/-- Octets in the order in which they travel. -/
abbrev Bytes := List UInt8

namespace Bytes

/-- The octets of a text whose characters are all below U+0100, one octet for each character. -/
def ofAscii (text : String) : Bytes :=
  text.toList.map fun c => c.toNat.toUInt8

/-- One character for each octet, the character of the same number. -/
def toChars (bytes : Bytes) : List Char :=
  bytes.map fun b => Char.ofNat b.toNat

/-- The text of octets that are known to be ASCII. -/
def toAscii (bytes : Bytes) : String :=
  String.ofList bytes.toChars

/-- Carriage return and line feed. -/
def lineEnd : Bytes := [13, 10]

/-- The parts before and after the first occurrence of `needle`, where `seen` holds, in reverse, what
was passed over so far. -/
def cutFrom (needle seen : Bytes) : Bytes → Option (Bytes × Bytes)
  | [] => if needle.isEmpty then some (seen.reverse, []) else none
  | b :: rest =>
    match needle.isPrefixOf? (b :: rest) with
    | some after => some (seen.reverse, after)
    | none => cutFrom needle (b :: seen) rest

/-- The parts before and after the first occurrence of `needle`. -/
def cut? (data needle : Bytes) : Option (Bytes × Bytes) :=
  cutFrom needle [] data

/-- What is passed over goes in front of the part before the separator. -/
theorem cutFrom_eq (needle seen data : Bytes) :
    cutFrom needle seen data = (cut? data needle).map fun p => (seen.reverse ++ p.1, p.2) := by
  induction data generalizing seen with
  | nil =>
    simp only [cut?, cutFrom]
    split <;> simp
  | cons b rest ih =>
    simp only [cut?, cutFrom]
    cases needle.isPrefixOf? (b :: rest) with
    | some after => simp
    | none =>
      simp only
      rw [ih (b :: seen), ih [b]]
      simp [Option.map_map, Function.comp_def]

/-- An octet at which no separator starts belongs to the part before it. -/
theorem cut?_cons_of_none {needle : Bytes} {b : UInt8} {rest : Bytes}
    (h : needle.isPrefixOf? (b :: rest) = none) :
    cut? (b :: rest) needle = (cut? rest needle).map fun p => (b :: p.1, p.2) := by
  have := cutFrom_eq needle [b] rest
  simp only [List.reverse_cons, List.reverse_nil, List.nil_append, List.singleton_append] at this
  rw [← this]
  simp [cut?, cutFrom, h]

/-- The data between line ends, where `line` holds, in reverse, the line that is being read. The
empty piece after a final line end is no line. -/
def linesFrom (line : Bytes) : Bytes → List Bytes
  | [] => if line.isEmpty then [] else [line.reverse]
  | 13 :: 10 :: rest => line.reverse :: linesFrom [] rest
  | b :: rest => linesFrom (b :: line) rest

/-- The lines of a block that is cut at each line end. -/
def lines (block : Bytes) : List Bytes := linesFrom [] block

end Bytes

end ForwardProxy
