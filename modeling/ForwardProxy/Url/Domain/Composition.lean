import ForwardProxy.Url.Domain.CompositionTable

/-!
# Canonical composition

Texts that differ only in how marks are attached to letters have one composed form: every character
is decomposed, marks are put in the order of their combining classes, and each character is joined
with the marks after it as far as there are characters for that.
-/

namespace ForwardProxy.Url.Domain

/-- The characters that decompose, each with its decomposition. -/
def decompositions : List (Char × List Char) :=
  (Text.tableRows decompositionText).map fun row =>
    (Char.ofNat (row.headD 0), row.tail.map Char.ofNat)

/-- The combining classes. -/
def combiningClasses : Text.RangeMap := .ofRows (Text.tableRows combiningClassText)

/-- The combining class of a character, zero for one that others attach to. -/
def combiningClass (c : Char) : Nat := combiningClasses.value c

/-- The combining marks. -/
def marks : Text.CodeSet := .ofRows (Text.tableRows markText)

/-- The decomposition of a Korean syllable into its two or three letters. -/
def syllableParts? (c : Char) : Option (List Char) :=
  if 0xAC00 ≤ c.toNat ∧ c.toNat < 0xAC00 + 11172 then
    let n := c.toNat - 0xAC00
    let front := [Char.ofNat (0x1100 + n / 588), Char.ofNat (0x1161 + n % 588 / 28)]
    some (if n % 28 = 0 then front else front ++ [Char.ofNat (0x11A7 + n % 28)])
  else none

/-- The full decomposition of a character. -/
def decomposed (c : Char) : List Char :=
  if c.toNat < 128 then [c]
  else (syllableParts? c).getD ((decompositions.lookup c).getD [c])

/-- Puts a character behind all others except marks of a higher class than its own. The text is in
reverse. -/
def insertMark (c : Char) : List Char → List Char
  | [] => [c]
  | d :: rest =>
    if combiningClass c ≠ 0 ∧ combiningClass c < combiningClass d then d :: insertMark c rest
    else c :: d :: rest

/-- The character that two Korean letters, or a syllable and a letter, make up. -/
def syllable? (front back : Char) : Option Char :=
  let f := front.toNat
  let b := back.toNat
  if 0x1100 ≤ f ∧ f < 0x1113 ∧ 0x1161 ≤ b ∧ b < 0x1176 then
    some (Char.ofNat (0xAC00 + ((f - 0x1100) * 21 + (b - 0x1161)) * 28))
  else if 0xAC00 ≤ f ∧ f < 0xAC00 + 11172 ∧ (f - 0xAC00) % 28 = 0 ∧ 0x11A8 ≤ b ∧ b < 0x11C3 then
    some (Char.ofNat (f + (b - 0x11A7)))
  else none

/-- The character that a character and another after it make up. -/
def composite? (front back : Char) : Option Char :=
  (syllable? front back).or <|
    let parts := decomposed front ++ [back]
    (decompositions.find? fun row => row.2 == parts).map (·.1)

/-- A text that is being composed. -/
structure Composing where
  /-- What is finished, in reverse. -/
  done : List Char := []
  /-- The character that the next ones may join. -/
  base : Option Char := none
  /-- The marks after it that did not join, in reverse. -/
  kept : List Char := []

/-- Takes up one character more. It joins the base if nothing stands between them, or only marks of
lower classes. -/
def Composing.push (state : Composing) (c : Char) : Composing :=
  let free :=
    match state.kept with
    | [] => true
    | last :: _ => combiningClass last < combiningClass c
  match state.base with
  | none =>
    if combiningClass c = 0 then { state with base := some c }
    else { state with done := c :: state.done }
  | some base =>
    match if free then composite? base c else none with
    | some joined => { state with base := some joined }
    | none =>
      if combiningClass c = 0 then
        { done := state.kept ++ base :: state.done, base := some c, kept := [] }
      else { state with kept := c :: state.kept }

/-- The finished text. -/
def Composing.text (state : Composing) : List Char :=
  (state.kept ++ state.base.toList ++ state.done).reverse

/-- The composed form of a text. -/
def composed (text : List Char) : List Char :=
  let ordered := (text.flatMap decomposed).foldl (fun done c => insertMark c done) []
  (ordered.reverse.foldl Composing.push {}).text

end ForwardProxy.Url.Domain
