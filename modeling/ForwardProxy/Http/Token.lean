import ForwardProxy.Text.Bytes

/-!
# Tokens

Method and header names are tokens: letters, digits and fifteen signs of ASCII. Header names are
compared without regard to case and kept in lower case.
-/

namespace ForwardProxy.Http

/-- A letter of ASCII. -/
def isLetter (b : UInt8) : Bool := (65 ≤ b && b ≤ 90) || (97 ≤ b && b ≤ 122)

/-- A digit of ASCII. -/
def isDigit (b : UInt8) : Bool := 48 ≤ b && b ≤ 57

/-- The signs that a token may hold. -/
def tokenSigns : Bytes := Bytes.ofAscii "!#$%&'*+-.^_\x60|~"

/-- An octet that a token may hold. -/
def isTokenOctet (b : UInt8) : Bool := isLetter b || isDigit b || tokenSigns.contains b

/-- The octet in lower case. -/
def lowered (b : UInt8) : UInt8 := if 65 ≤ b && b ≤ 90 then b + 32 else b

/-- The greatest number of octets in a header name. -/
def maxNameLength : Nat := 65535

/-- Whether the octets, all in lower case, are a header name. -/
def isFieldName (bytes : Bytes) : Bool :=
  !bytes.isEmpty && decide (bytes.length ≤ maxNameLength) &&
    bytes.all fun b => isTokenOctet b && lowered b == b

/-- The name of a header field, in lower case. -/
@[ext] structure FieldName where
  /-- The octets of the name. -/
  bytes : Bytes
  /-- They are a token in lower case. -/
  valid : isFieldName bytes = true := by decide
  deriving DecidableEq

/-- Reads a header name in any letter case. -/
def FieldName.ofBytes? (bytes : Bytes) : Option FieldName :=
  if h : isFieldName (bytes.map lowered) = true then some ⟨bytes.map lowered, h⟩ else none

/-- The name as text. -/
def FieldName.text (name : FieldName) : String := name.bytes.toAscii

/-- An octet that a header value may hold: a tab, or anything from the space up but DEL. -/
def isValueOctet (b : UInt8) : Bool := b == 9 || (32 ≤ b && b != 127)

/-- One value of a header field. -/
@[ext] structure FieldValue where
  /-- The octets of the value. -/
  bytes : Bytes
  /-- None of them is a control other than the tab. -/
  valid : bytes.all isValueOctet = true := by decide
  deriving DecidableEq

/-- Reads a header value. -/
def FieldValue.ofBytes? (bytes : Bytes) : Option FieldValue :=
  if h : bytes.all isValueOctet = true then some ⟨bytes, h⟩ else none

/-- An octet that may stand in a value that is read as text. -/
def isTextOctet (b : UInt8) : Bool := b == 9 || (32 ≤ b && b ≤ 126)

/-- The value as text: only values of printable ASCII and tabs are text. -/
def FieldValue.text? (value : FieldValue) : Option (List Char) :=
  if value.bytes.all isTextOctet then some value.bytes.toChars else none

/-- What a name reads back as. -/
theorem FieldName.ofBytes?_bytes (name : FieldName) : FieldName.ofBytes? name.bytes = some name := by
  have hlow : name.bytes.map lowered = name.bytes := by
    have hv := name.valid
    simp only [isFieldName, Bool.and_eq_true, List.all_eq_true, beq_iff_eq] at hv
    conv => rhs; rw [← List.map_id name.bytes]
    exact List.map_congr_left fun b hb => (hv.2 b hb).2
  unfold ofBytes?
  rw [dif_pos (by rw [hlow]; exact name.valid)]
  simp [hlow]

/-- What a value reads back as. -/
theorem FieldValue.ofBytes?_bytes (value : FieldValue) :
    FieldValue.ofBytes? value.bytes = some value := by
  simp [ofBytes?, value.valid]

end ForwardProxy.Http
