import ForwardProxy.Url.Domain.Composition
import ForwardProxy.Url.Domain.DirectionTable

/-!
# Writing direction and joining in labels

A domain name with characters that are written from right to left must be one whose labels keep
their places when it is displayed. Invisible joiners are allowed only where they change how the
characters around them look.
-/

namespace ForwardProxy.Url.Domain

/-- The direction classes of characters. -/
inductive Direction where
  /-- Left to right. -/
  | left
  /-- Right to left. -/
  | right
  /-- An Arabic letter. -/
  | arabicLetter
  /-- An Arabic number. -/
  | arabicNumber
  /-- A European number. -/
  | europeanNumber
  /-- A separator between European numbers. -/
  | europeanSeparator
  /-- A separator between numbers. -/
  | commonSeparator
  /-- A sign before or after European numbers. -/
  | europeanTerminator
  /-- Any other sign. -/
  | otherNeutral
  /-- A character without a place of its own. -/
  | boundaryNeutral
  /-- A mark on the character before it. -/
  | mark
  /-- A character that no label holds. -/
  | other
  deriving DecidableEq

/-- The direction classes in the order of the table. -/
def directions : List Direction :=
  [.left, .right, .arabicLetter, .arabicNumber, .europeanNumber, .europeanSeparator,
    .commonSeparator, .europeanTerminator, .otherNeutral, .boundaryNeutral, .mark, .other]

/-- The numbers of the direction classes. -/
def directionMap : Text.RangeMap := .ofRows (Text.tableRows directionText)

/-- The direction class of a character. -/
def direction (c : Char) : Direction := directions.getD (directionMap.value c) .other

/-- The classes of which one makes a name one with text from right to left. -/
def rightward : List Direction := [.right, .arabicLetter, .arabicNumber]

/-- The classes that may stand in a label of either direction. -/
def eitherWay : List Direction :=
  [.europeanNumber, .europeanSeparator, .commonSeparator, .europeanTerminator, .otherNeutral,
    .boundaryNeutral, .mark]

/-- The classes with which a label from left to right may end. -/
def leftwardEnds : List Direction := [.left, .europeanNumber]

/-- The classes with which a label from right to left may end. -/
def rightwardEnds : List Direction := .europeanNumber :: rightward

/-- Whether a label keeps its place in a name with text from right to left. -/
def keepsPlace (label : List Char) : Bool :=
  let classes := label.map direction
  let last := (classes.reverse.dropWhile (· == .mark)).head?
  match classes.head? with
  | none => true
  | some .left =>
    classes.all (fun d => d == .left || eitherWay.contains d) && last.any leftwardEnds.contains
  | some first =>
    (first == .right || first == .arabicLetter) &&
      classes.all (fun d => rightward.contains d || eitherWay.contains d) &&
      last.any rightwardEnds.contains &&
      !(classes.contains .arabicNumber && classes.contains .europeanNumber)

/-- Whether the labels of a name keep their places. -/
def directionsAllowed (labels : List (List Char)) : Bool :=
  let hasRightward := labels.any fun label => label.any fun c => rightward.contains (direction c)
  !hasRightward || labels.all keepsPlace

/-- How characters of connected scripts join their neighbours. -/
inductive Joining where
  /-- Not at all. -/
  | never
  /-- It does not count. -/
  | transparent
  /-- With the one after it. -/
  | onLeft
  /-- With the one before it. -/
  | onRight
  /-- With both. -/
  | dual
  deriving DecidableEq

/-- The joining types in the order of the table. -/
def joinings : List Joining := [.never, .transparent, .onLeft, .onRight, .dual]

/-- The numbers of the joining types. -/
def joiningMap : Text.RangeMap := .ofRows (Text.tableRows joiningText)

/-- The joining type of a character. -/
def joining (c : Char) : Joining := joinings.getD (joiningMap.value c) .never

/-- The combining class of the signs that silence a vowel. -/
def viramaClass : Nat := 9

/-- Whether the joiners of a label change how it looks, where `before` is, in reverse, what stands
before `rest`. -/
def joinersAllowedFrom (before : List Char) : List Char → Bool
  | [] => true
  | c :: rest =>
    let afterVirama := (before.head?.map combiningClass) == some viramaClass
    let between :=
      match (before.dropWhile (joining · == .transparent)).head?,
        (rest.dropWhile (joining · == .transparent)).head? with
      | some l, some r =>
        (joining l == .onLeft || joining l == .dual) && (joining r == .onRight || joining r == .dual)
      | _, _ => false
    let allowed :=
      if c = '\u200C' then afterVirama || between
      else if c = '\u200D' then afterVirama
      else true
    allowed && joinersAllowedFrom (c :: before) rest

/-- Whether the joiners of a label change how it looks. -/
def joinersAllowed (label : List Char) : Bool := joinersAllowedFrom [] label

end ForwardProxy.Url.Domain
