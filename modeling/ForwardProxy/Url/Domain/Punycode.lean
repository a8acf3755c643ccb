/-!
# Punycode

The form of a label outside ASCII that uses letters, digits and hyphens only. The ASCII characters
stand first. Then each other character, in ascending order, is a number in a mixed radix that says
how far to count on from the one before, over all places where it could be inserted.
-/

namespace ForwardProxy.Url.Punycode

/-- The digit for a number below 36: the letters, then the decimal digits. -/
def digit (n : Nat) : Char :=
  if n < 26 then Char.ofNat (97 + n) else Char.ofNat (22 + n)

/-- The value of a digit in either case. -/
def digitValue? (c : Char) : Option Nat :=
  if 'a' ≤ c ∧ c ≤ 'z' then some (c.toNat - 97)
  else if 'A' ≤ c ∧ c ≤ 'Z' then some (c.toNat - 65)
  else if '0' ≤ c ∧ c ≤ '9' then some (c.toNat - 22)
  else none

/-- The digit at place `k`, a multiple of 36, is the last of its number if it is below this. -/
def threshold (bias k : Nat) : Nat :=
  if k ≤ bias then 1 else if bias + 26 ≤ k then 26 else k - bias

theorem one_le_threshold (bias k : Nat) : 1 ≤ threshold bias k := by
  simp only [threshold]
  split
  · omega
  · split <;> omega

/-- Divides a step by 35 until it is at most 455, and counts 36 for each division. -/
def shrink (step : Nat) : Nat × Nat :=
  if 455 < step then
    let (rest, count) := shrink (step / 35)
    (rest, count + 36)
  else (step, 0)
termination_by step
decreasing_by exact Nat.div_lt_self (by omega) (by omega)

/-- The bias for the number after a step, with `points` characters so far. -/
def adapt (step points : Nat) (isFirst : Bool) : Nat :=
  let step := if isFirst then step / 700 else step / 2
  let (rest, count) := shrink (step + step / points)
  count + 36 * rest / (rest + 38)

/-- The digits of a step from place `k` on. -/
def stepDigits (bias k step : Nat) : List Char :=
  let t := threshold bias k
  if step < t then [digit step]
  else digit (t + (step - t) % (36 - t)) :: stepDigits bias (k + 36) ((step - t) / (36 - t))
termination_by step
decreasing_by
  have h₁ := one_le_threshold bias k
  have h₂ := Nat.div_le_self (step - threshold bias k) (36 - threshold bias k)
  omega

/-- What writing a label has done so far. -/
structure Writing where
  /-- The steps that were written, in order. -/
  out : List Char := []
  /-- The places passed since the last character was written. -/
  step : Nat := 0
  /-- The bias for the next step. -/
  bias : Nat := 72
  /-- The characters that were written. -/
  points : Nat

/-- Passes one character of the label while those with the code point `point` are written. -/
def Writing.pass (basic point : Nat) (writing : Writing) (c : Char) : Writing :=
  if c.toNat < point then { writing with step := writing.step + 1 }
  else if c.toNat = point then
    { out := writing.out ++ stepDigits writing.bias 36 writing.step
      step := 0
      bias := adapt writing.step (writing.points + 1) (writing.points == basic)
      points := writing.points + 1 }
  else writing

/-- Writes a label. -/
def encode (label : List Char) : List Char :=
  let basic := label.filter (·.toNat < 128)
  let points := ((label.map Char.toNat).filter (128 ≤ ·)).mergeSort.eraseDups
  let written :=
    (points.foldl
      (fun (state : Writing × Nat) point =>
        let counted := { state.1 with
          step := state.1.step + (point - state.2) * (state.1.points + 1) }
        let passed := label.foldl (Writing.pass basic.length point) counted
        ({ passed with step := passed.step + 1 }, point + 1))
      ({ points := basic.length }, 128)).1
  basic ++ (if basic.isEmpty then [] else ['-']) ++ written.out

/-- The limit of the numbers that reading may meet. -/
def limit : Nat := 4294967296

/-- Reads one step from place `k` on, in which a digit counts `weight`, and adds it to `total`. -/
def readStep (bias : Nat) : (k weight total : Nat) → List Char → Option (Nat × List Char)
  | _, _, _, [] => none
  | k, weight, total, c :: rest =>
    match digitValue? c with
    | none => none
    | some d =>
      let total := total + d * weight
      let t := threshold bias k
      if limit ≤ total then none
      else if d < t then some (total, rest)
      else if limit ≤ weight * (36 - t) then none
      else readStep bias (k + 36) (weight * (36 - t)) total rest

theorem length_readStep_lt {bias k weight total : Nat} {text : List Char} {read : Nat × List Char}
    (h : readStep bias k weight total text = some read) : read.2.length < text.length := by
  induction text generalizing k weight total with
  | nil => simp [readStep] at h
  | cons c rest ih =>
    simp only [readStep] at h
    split at h
    · simp at h
    · split at h
      · simp at h
      · split at h
        · obtain rfl := Option.some.inj h
          simp
        · split at h
          · simp at h
          · exact Nat.lt_succ_of_lt (ih h)

/-- Reads the steps of a label: inserts the characters one by one into those read so far. -/
def readSteps (label : List Char) (bias place point : Nat) (text : List Char) :
    Option (List Char) :=
  match text with
  | [] => some label
  | c :: rest =>
    match h : readStep bias 36 1 place (c :: rest) with
    | none => none
    | some (total, left) =>
      let points := label.length + 1
      let point := point + total / points
      if point.isValidChar then
        let here := total % points
        readSteps (label.take here ++ Char.ofNat point :: label.drop here)
          (adapt (total - place) points (place == 0)) (here + 1) point left
      else none
termination_by text.length
decreasing_by exact length_readStep_lt h

/-- Reads a label. What stands before the last hyphen is taken as it is. -/
def decode? (text : List Char) : Option (List Char) :=
  let tail := (text.reverse.takeWhile (· ≠ '-')).reverse
  let front := text.take (text.length - tail.length)
  if front.length ≤ 1 then readSteps [] 72 0 128 text
  else readSteps front.dropLast 72 0 128 tail

end ForwardProxy.Url.Punycode
