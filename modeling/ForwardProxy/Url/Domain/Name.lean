import ForwardProxy.Text.Utf8
import ForwardProxy.Url.Domain.Direction
import ForwardProxy.Url.Domain.MappingTable
import ForwardProxy.Url.Domain.Punycode

/-!
# Domain names

A domain name is written in ASCII: letters in lower case, and each label with other characters in
its encoded form after `xn--`. Names that look alike because they differ in case, width or the way
marks are attached have one written form.
-/

namespace ForwardProxy.Url.Domain

/-- The characters that stay. -/
def validSet : Text.CodeSet := .ofRows ((Text.tableRows validText))

/-- The characters that are dropped. -/
def droppedSet : Text.CodeSet := .ofRows (Text.tableRows droppedText)

/-- The rows of the characters that become others. -/
def mappedRows : Array (List Nat) := (Text.tableRows mappedText).toArray

/-- The first code point of each row. -/
def mappedStarts : Array Nat := mappedRows.map (·.headD 0)

/-- What a character becomes that is in the table of those that become others. -/
def mappedTo? (c : Char) : Option (List Char) :=
  match Text.rank mappedStarts c.toNat with
  | 0 => none
  | n + 1 =>
    match mappedRows.getD n [] with
    | first :: last :: step :: targets =>
      if last < c.toNat ∨ (c.toNat - first) % step ≠ 0 then none
      else
        match targets with
        | [target] => some [Char.ofNat (target + (c.toNat - first))]
        | targets => some (targets.map Char.ofNat)
    | _ => none

/-- What a character of a name becomes: itself, nothing, others, or `none` if no name holds it. -/
def mapped? (c : Char) : Option (List Char) :=
  if 'A' ≤ c ∧ c ≤ 'Z' then some [c.toLower]
  else if c.toNat < 128 then some [c]
  else if validSet.contains c then some [c]
  else if droppedSet.contains c then some []
  else mappedTo? c

/-- The mapped and composed form of a text. -/
def normalized? (text : List Char) : Option (List Char) :=
  (text.mapM mapped?).map fun parts => composed parts.flatten

/-- The signs of ASCII that no name may hold, controls and the space apart. -/
def forbiddenSigns : List Char := "%#/:<>?@[\\]^|".toList

/-- A character of ASCII that no name may hold. -/
def isForbidden (c : Char) : Bool := c.toNat ≤ 32 || c.toNat == 127 || forbiddenSigns.contains c

/-- What marks a label as encoded. -/
def encodedMark : List Char := "xn--".toList

/-- The label as it is displayed: an encoded one is decoded, and must be what its own encoding
stands for. -/
def displayed? (label : List Char) : Option (List Char) :=
  match encodedMark.isPrefixOf? label with
  | none => some label
  | some code =>
    match Punycode.decode? code with
    | none => none
    | some text =>
      if text.all (·.toNat < 128) then none
      else if normalized? text = some text then some text
      else none

/-- Whether a label may stand in a name as it is displayed. -/
def isLabel (label : List Char) : Bool :=
  label.all (!isForbidden ·) && !(label.head?.any marks.contains) && joinersAllowed label

/-- A label in ASCII. -/
def writtenLabel (label : List Char) : List Char :=
  if label.all (·.toNat < 128) then label else encodedMark ++ Punycode.encode label

/-- The written form of a name, or `none` if it is not one. -/
def written? (name : List Char) : Option (List Char) := do
  let labels := (← normalized? name).splitOn '.'
  let shown ← labels.mapM displayed?
  guard (shown.all isLabel && directionsAllowed shown)
  return ['.'].intercalate (shown.map writtenLabel)

end ForwardProxy.Url.Domain
