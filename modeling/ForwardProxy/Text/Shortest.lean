import ForwardProxy.Text.Integer

/-!
# Shortest decimal text

A binary fraction is written with the fewest decimal digits that read back as the same number. The
numbers that read back as it form an interval around it, from which its neighbours on a decimal grid
are tried, coarse grids first. All of this is done in exact arithmetic.

Small and middling numbers are written with a point, others with an exponent.
-/

namespace ForwardProxy.Text

/-- A positive number and the interval of those that read back as it, all four as numerators over
one denominator. -/
structure Rounding where
  /-- The number. -/
  value : Nat
  /-- The lower end. -/
  low : Nat
  /-- The upper end. -/
  high : Nat
  /-- The denominator. -/
  denominator : Nat
  /-- The ends belong to the interval. -/
  closed : Bool

/-- The bits of a fraction of full length. -/
def fullMantissa : Nat := 4503599627370496

/-- The interval of a positive number with the given bits, which are those of its exponent and of its
fraction. Below a power of two the numbers lie twice as close. -/
def Rounding.ofBits (exponent fraction : Nat) : Rounding :=
  let mantissa := if exponent = 0 then fraction else fullMantissa + fraction
  let below := if fraction = 0 ∧ 1 < exponent then 1 else 2
  let scale := max exponent 1
  let (up, down) :=
    if 1075 ≤ scale then (Nat.pow 2 (scale - 1075), 1) else (1, Nat.pow 2 (1075 - scale))
  { value := 4 * mantissa * up
    low := (4 * mantissa - below) * up
    high := (4 * mantissa + 2) * up
    denominator := 4 * down
    closed := mantissa % 2 = 0 }

/-- The multiple `n` of a power of ten, as a numerator over the denominator times the second
component. -/
def Rounding.gridPoint (r : Rounding) (power : Int) (n : Nat) : Nat × Nat :=
  if 0 ≤ power then (n * Nat.pow 10 power.toNat * r.denominator, 1)
  else (n * r.denominator, Nat.pow 10 (-power).toNat)

/-- Whether a multiple of a power of ten reads back as the number. -/
def Rounding.holds (r : Rounding) (power : Int) (n : Nat) : Bool :=
  let (point, scale) := r.gridPoint power n
  if r.closed then r.low * scale ≤ point && point ≤ r.high * scale
  else r.low * scale < point && point < r.high * scale

/-- The multiple of a power of ten that lies at or just below the number. -/
def Rounding.floorOn (r : Rounding) (power : Int) : Nat :=
  if 0 ≤ power then r.value / (r.denominator * Nat.pow 10 power.toNat)
  else r.value * Nat.pow 10 (-power).toNat / r.denominator

/-- The nearer of the two multiples of a power of ten around the number that read back as it. Of two
that are equally near the even one is taken. -/
def Rounding.nearestOn? (r : Rounding) (power : Int) : Option Nat :=
  let below := r.floorOn power
  match r.holds power below, r.holds power (below + 1) with
  | true, false => some below
  | false, true => some (below + 1)
  | false, false => none
  | true, true =>
    let (point, scale) := r.gridPoint power below
    let (next, _) := r.gridPoint power (below + 1)
    let under := r.value * scale - point
    let above := next - r.value * scale
    some (if under < above ∨ (under = above ∧ below % 2 = 0) then below else below + 1)

/-- The power of ten of the first digit: the greatest that is not above the number, searched from
`power` down. -/
def Rounding.leadingPower (r : Rounding) (fuel : Nat) (power : Int) : Int :=
  match fuel with
  | 0 => power
  | fuel + 1 => if 0 < r.floorOn power then power else r.leadingPower fuel (power - 1)

/-- The first number of digits, from `count` on, with which some decimal reads back, and that
decimal: its digits as a number and the power of ten of the last one. -/
def Rounding.shortestFrom (r : Rounding) (leading : Int) (fuel count : Nat) : Nat × Int :=
  let power := leading - count + 1
  match fuel with
  | 0 => (r.floorOn power, power)
  | fuel + 1 =>
    match r.nearestOn? power with
    | some n => (n, power)
    | none => r.shortestFrom leading fuel (count + 1)

/-- The shortest decimal that reads back: its digits as a number, and the power of ten of the last
one. Seventeen digits are always enough. -/
def Rounding.shortest (r : Rounding) : Nat × Int :=
  r.shortestFrom (r.leadingPower 640 310) 17 1

/-- The digits of a number without the zeros at the end, and how many zeros these were. -/
def stripZeros (digits : List Char) : List Char × Nat :=
  let rest := digits.reverse.dropWhile (· == '0')
  (rest.reverse, digits.length - rest.length)

/-- The first power of ten that is written with an exponent. -/
def firstLargePower : Int := 16

/-- The last power of ten of a first digit that is written with an exponent. -/
def lastSmallPower : Int := -6

/-- Writes a decimal with a point, or with an exponent if its first digit stands too far from the
point. There is always a digit after the point. -/
def decimalText (digits : List Char) (lastPower : Int) : List Char :=
  let (digits, zeros) := stripZeros digits
  let lastPower := lastPower + zeros
  let leading := lastPower + digits.length - 1
  if leading ≤ lastSmallPower ∨ firstLargePower ≤ leading then
    let exponent := 'e' :: (if leading < 0 then ['-'] else []) ++ Nat.toDigits 10 leading.natAbs
    match digits with
    | [digit] => digit :: exponent
    | first :: rest => first :: '.' :: rest ++ exponent
    | [] => exponent
  else if 0 ≤ lastPower then digits ++ List.replicate lastPower.toNat '0' ++ ['.', '0']
  else if 0 ≤ leading then
    digits.take (leading.toNat + 1) ++ '.' :: digits.drop (leading.toNat + 1)
  else ['0', '.'] ++ List.replicate (-leading - 1).toNat '0' ++ digits

/-- The text of a finite number that is not negative. -/
def floatText (value : Float) : String :=
  let bits := value.toBits.toNat
  let exponent := bits / fullMantissa % 2048
  let fraction := bits % fullMantissa
  if exponent = 0 ∧ fraction = 0 then "0.0"
  else
    let (n, power) := (Rounding.ofBits exponent fraction).shortest
    String.ofList (decimalText (Nat.toDigits 10 n) power)

end ForwardProxy.Text
