/-!
# Decimal integers

Reading numbers in decimal notation. Only the digits 0 to 9 count, and leading zeros are allowed.
Limits are the caller's.
-/

namespace ForwardProxy.Text

/-- The number that a string of digits denotes. -/
def digitsValue (digits : List Char) : Nat :=
  digits.foldl (fun n c => n * 10 + (c.toNat - 48)) 0

/-- One digit or more. -/
def natural? (text : List Char) : Option Nat :=
  if text ≠ [] ∧ text.all Char.isDigit then some (digitsValue text) else none

/-- A natural number that may have a plus sign, up to `limit`. -/
def unsigned? (limit : Nat) (text : List Char) : Option Nat :=
  let number :=
    match text with
    | '+' :: digits => natural? digits
    | digits => natural? digits
  number.filter (· ≤ limit)

/-- An integer that may have a sign, between `-bound` and `bound - 1`. -/
def signed? (bound : Nat) (text : List Char) : Option Int :=
  match text with
  | '-' :: digits => ((natural? digits).filter (· ≤ bound)).map fun n => -(n : Int)
  | '+' :: digits => ((natural? digits).filter (· < bound)).map Int.ofNat
  | digits => ((natural? digits).filter (· < bound)).map Int.ofNat

/-- The decimal digits of `n`, with zeros in front up to `width`. -/
def padded (width n : Nat) : List Char :=
  let digits := Nat.toDigits 10 n
  List.replicate (width - digits.length) '0' ++ digits

end ForwardProxy.Text
