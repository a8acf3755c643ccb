import ForwardProxy.Text.Hidden

/-!
# Quoted text

The form in which a message quotes a text that may hold anything: between double quotes, with
backslash escapes for the quote, the backslash and the common controls, and the number in braces
for every other character that does not show by itself.
-/

namespace ForwardProxy.Text

/-- One character of a quoted text. -/
def escaped (c : Char) : List Char :=
  if c = '\x00' then ['\\', '0']
  else if c = '\t' then ['\\', 't']
  else if c = '\r' then ['\\', 'r']
  else if c = '\n' then ['\\', 'n']
  else if c = '"' then ['\\', '"']
  else if c = '\\' then ['\\', '\\']
  else if hidden.contains c then
    ['\\', 'u', '\x7b'] ++ Nat.toDigits 16 c.toNat ++ ['\x7d']
  else [c]

/-- The text between double quotes, with escapes. -/
def quoted (text : List Char) : String :=
  String.ofList ('"' :: text.flatMap escaped ++ ['"'])

end ForwardProxy.Text
