import ForwardProxy.Url.Host

/-!
# Reading web addresses

A text is read against a base, if there is one, as browsers read it: blanks at the ends are dropped,
line breaks and tabs are dropped everywhere, backslashes count as slashes for the schemes of the
web, and dot segments are resolved. Each reader takes the front of the text and gives what is left.
-/

namespace ForwardProxy.Url

/-- How an address is read, which depends on its scheme. -/
inductive SchemeKind where
  /-- The scheme of files. -/
  | file
  /-- The other schemes of the web. -/
  | web
  /-- Any other scheme. -/
  | other
  deriving DecidableEq

/-- The kind of a scheme. -/
def SchemeKind.of (scheme : List Char) : SchemeKind :=
  if scheme = "file".toList then .file
  else if (defaultPort? scheme).isSome then .web
  else .other

/-- Backslashes count as slashes, and there is always a path. -/
def SchemeKind.isSpecial (kind : SchemeKind) : Bool := kind != .other

/-- A slash for addresses of this kind. -/
def SchemeKind.isSlash (kind : SchemeKind) (c : Char) : Bool :=
  c == '/' || (kind.isSpecial && c == '\\')

/-- Encoded in a fragment. -/
def inFragment (c : Char) : Bool := isControlOrForeign c || " \"<>\x60".toList.contains c

/-- Encoded in a query. -/
def inQuery (kind : SchemeKind) (c : Char) : Bool :=
  isControlOrForeign c || " \"#<>".toList.contains c || (kind.isSpecial && c == '\'')

/-- Encoded in a path. -/
def inPath (c : Char) : Bool :=
  isControlOrForeign c || " \"#<>?\x60\x7b\x7d".toList.contains c

/-- Encoded in the name and the password of a user. -/
def inUser (c : Char) : Bool := inPath c || "/:;=@[\\]^|".toList.contains c

/-- A letter of ASCII. -/
def isLetter (c : Char) : Bool := c.isAlpha

/-- A letter with a colon or a bar after it. -/
def isDriveLetter : List Char → Bool
  | [letter, mark] => isLetter letter && (mark == ':' || mark == '|')
  | _ => false

/-- A letter with a colon after it. -/
def isNormalDriveLetter : List Char → Bool
  | [letter, mark] => isLetter letter && mark == ':'
  | _ => false

/-- A segment that stands for the place itself. -/
def isSingleDot (segment : List Char) : Bool :=
  [".", "%2e"].contains (String.ofList (segment.map Char.toLower))

/-- A segment that stands for the place above. -/
def isDoubleDot (segment : List Char) : Bool :=
  ["..", ".%2e", "%2e.", "%2e%2e"].contains (String.ofList (segment.map Char.toLower))

/-- Leaves the last segment. A drive letter at the start of a file path is not left. -/
def leaveSegment (kind : SchemeKind) (segments : List (List Char)) : List (List Char) :=
  match kind, segments with
  | .file, [segment] => if isNormalDriveLetter segment then [segment] else []
  | _, segments => segments.dropLast

/-- The segments after one more, which a slash follows or not. -/
def enterSegment (kind : SchemeKind) (segments : List (List Char)) (segment : List Char)
    (slash : Bool) : List (List Char) :=
  if isDoubleDot segment then
    leaveSegment kind segments ++ (if slash then [] else [[]])
  else if isSingleDot segment then
    segments ++ (if slash then [] else [[]])
  else if kind = .file ∧ segments.isEmpty ∧ isDriveLetter segment then
    [segment.take 1 ++ [':']]
  else segments ++ [segment]

/-- The path ends here. -/
def endsPath (c : Char) : Bool := c == '?' || c == '#'

/-- Reads the segments that follow a slash, after those before it. -/
def readSegments (kind : SchemeKind) (segments : List (List Char)) (text : List Char) :
    List (List Char) × List Char :=
  let raw := text.takeWhile fun c => !kind.isSlash c && !endsPath c
  let segment := Percent.encode inPath raw
  match _h : text.drop raw.length with
  | [] => (enterSegment kind segments segment false, [])
  | c :: rest =>
    if kind.isSlash c then readSegments kind (enterSegment kind segments segment true) rest
    else (enterSegment kind segments segment false, c :: rest)
termination_by text.length
decreasing_by
  have := congrArg List.length _h
  simp only [List.length_drop, List.length_cons] at this
  omega

/-- The segments of a file path, without empty ones at the front. -/
def withoutEmptyFront (segments : List (List Char)) : List (List Char) :=
  match segments.dropWhile (·.isEmpty) with
  | [] => [[]]
  | rest => rest

/-- Reads the path that follows a slash, after segments that are already there. -/
def readPath (kind : SchemeKind) (segments : List (List Char)) (text : List Char) :
    Path × List Char :=
  let (list, rest) := readSegments kind segments text
  (.segments (if kind = .file then withoutEmptyFront list else list), rest)

/-- Reads the path after a host. -/
def readPathAfterHost (kind : SchemeKind) (text : List Char) : Path × List Char :=
  match text with
  | [] => if kind.isSpecial then (.segments [[]], []) else (.segments [], [])
  | c :: rest =>
    if kind.isSlash c then readPath kind [] rest
    else if !kind.isSpecial && endsPath c then (.segments [], text)
    else readPath kind [] text

/-- Reads a query and a fragment to the end of the text. -/
def readTail (kind : SchemeKind) (text : List Char) : Option (List Char) × Option (List Char) :=
  let fragmentOf := fun (rest : List Char) =>
    match rest with
    | '#' :: fragment => some (Percent.encode inFragment fragment)
    | _ => none
  match text with
  | '?' :: rest =>
    let query := rest.takeWhile (· ≠ '#')
    (some (Percent.encode (inQuery kind) query), fragmentOf (rest.drop query.length))
  | rest => (none, fragmentOf rest)

/-- The address with the query and the fragment that the text ends in. -/
def withTail (kind : SchemeKind) (url : Url) (text : List Char) : Url :=
  let (query, fragment) := readTail kind text
  { url with query, fragment }

/-- A character that ends the part with user, host and port. -/
def SchemeKind.endsAuthority (kind : SchemeKind) (c : Char) : Bool :=
  kind.isSlash c || endsPath c

/-- Reads the name and the password of a user up to the last at-sign before the path. An at-sign
with nothing before it must have a host after it. -/
def readUser (kind : SchemeKind) (text : List Char) :
    Except ParseError (List Char × Option (List Char) × List Char) :=
  let authority := text.takeWhile (!kind.endsAuthority ·)
  if !authority.contains '@' then .ok ([], none, text)
  else
    let host := (authority.reverse.takeWhile (· ≠ '@')).reverse
    let user := authority.take (authority.length - host.length - 1)
    let rest := text.drop (user.length + 1)
    if user.isEmpty then
      if rest.head?.any kind.endsAuthority then .error .emptyHost else .ok ([], none, rest)
    else
      let name := user.takeWhile (· ≠ ':')
      let password := user.drop (name.length + 1)
      .ok (Percent.encode inUser name,
        if password.isEmpty then none else some (Percent.encode inUser password), rest)

/-- Takes the characters of a host: up to a colon outside brackets, or to the path. -/
def takeHost (kind : SchemeKind) (inBrackets : Bool) : List Char → List Char
  | [] => []
  | c :: rest =>
    if (c = ':' ∧ !inBrackets) ∨ kind.endsAuthority c then []
    else
      let inBrackets := if c = '[' then true else if c = ']' then false else inBrackets
      c :: takeHost kind inBrackets rest

/-- Reads a port after its colon. -/
def readPort (scheme text : List Char) : Except ParseError (Option Nat × List Char) :=
  let digits := text.takeWhile Char.isDigit
  let rest := text.drop digits.length
  let number := Text.digitsValue digits
  if number > 65535 then .error .invalidPort
  else if rest.head?.any fun c => !(endsPath c || c == '/' || c == '\\') then .error .invalidPort
  else if digits.isEmpty ∨ defaultPort? scheme = some number then .ok (none, rest)
  else .ok (some number, rest)

/-- Reads an address after its double slash. -/
def readAfterSlashes (scheme : List Char) (kind : SchemeKind) (text : List Char) :
    Except ParseError Url := do
  let (username, password, rest) ← readUser kind text
  let hostText := takeHost kind false rest
  let rest := rest.drop hostText.length
  if hostText.isEmpty && (kind == .web || rest.head? == some ':') then throw .emptyHost
  let host ← if kind.isSpecial then Host.parse hostText else Host.parseOpaque hostText
  let (port, rest) ←
    match rest with
    | ':' :: digits => readPort scheme digits
    | rest => pure (none, rest)
  if hostText.isEmpty && (!username.isEmpty || password.isSome) then throw .emptyHost
  let (path, rest) := readPathAfterHost kind rest
  return withTail kind { scheme, username, password, host := some host, port, path } rest

/-- Whether a text starts with a drive letter that is a whole segment. -/
def startsWithDriveLetter (text : List Char) : Bool :=
  isDriveLetter (text.take 2) &&
    (text.drop 2).head?.all fun c => c == '/' || c == '\\' || endsPath c

/-- The scheme of files. -/
def fileScheme : List Char := "file".toList

/-- The address of a file on this machine. -/
def fileUrl (path : Path) : Url := { scheme := fileScheme, host := some (.name []), path }

/-- Reads the address of a file after its double slash. The host of this machine is left out, and a
drive letter is no host. -/
def readFileHost (text : List Char) : Except ParseError Url := do
  let kind := SchemeKind.file
  let hostText := text.takeWhile (!kind.endsAuthority ·)
  let afterSlash := fun (rest : List Char) =>
    match rest with
    | c :: tail => if kind.isSlash c then tail else rest
    | [] => []
  if hostText.isEmpty || isDriveLetter hostText then
    let (path, rest) := readPath kind [] (afterSlash text)
    return withTail kind (fileUrl path) rest
  let host ← Host.parse hostText
  let rest := text.drop hostText.length
  let host := if host = .name "localhost".toList then .name [] else host
  let (path, rest) := readPath kind [] (afterSlash rest)
  let host :=
    match path with
    | .segments (first :: _) => if isNormalDriveLetter first then .name [] else host
    | _ => host
  return withTail kind { fileUrl path with host := some host } rest

/-- The segments of a path. -/
def Path.list : Path → List (List Char)
  | opaqueText _ => []
  | segments list => list

/-- Reads an address that has the scheme of its base, or none, against the base. -/
def readRelative (base : Url) (kind : SchemeKind) (text : List Char) : Except ParseError Url :=
  match text with
  | [] => .ok base.withoutFragment
  | '?' :: _ => .ok (withTail kind base text)
  | '#' :: fragment => .ok { base with fragment := some (Percent.encode inFragment fragment) }
  | c :: rest =>
    if kind.isSlash c then
      let slashes := (text.takeWhile fun c => c == '/' || c == '\\').length
      if 2 ≤ slashes then
        readAfterSlashes base.scheme kind
          (match text with
            | '/' :: '/' :: after => after
            | text => text.drop slashes)
      else
        let (path, tail) := readPath kind [] rest
        .ok (withTail kind { base with path } tail)
    else
      let (path, tail) := readPath kind base.path.list.dropLast text
      .ok (withTail kind { base with path } tail)

/-- Reads the address of a file after its scheme. -/
def readFile (base : Option Url) (text : List Char) : Except ParseError Url :=
  let kind := SchemeKind.file
  match text with
  | c :: rest =>
    if kind.isSlash c then
      match rest with
      | d :: after =>
        if kind.isSlash d then readFileHost after
        else
          let (path, tail) := readPath kind [] rest
          let host := (base.bind (·.host)).getD (.name [])
          .ok (withTail kind { fileUrl path with host := some host } tail)
      | [] => .ok (fileUrl (.segments [[]]))
    else
      match base with
      | some base =>
        if startsWithDriveLetter text then
          let (path, tail) := readPath kind [] text
          .ok (withTail kind (fileUrl path) tail)
        else readRelative base kind text
      | none =>
        let (path, tail) := readPath kind [] text
        .ok (withTail kind (fileUrl path) tail)
  | [] => .ok ((base.map withoutFragment).getD (fileUrl (.segments [[]])))

/-- Reads an address with a scheme that is not one of the web. -/
def readOther (scheme text : List Char) : Except ParseError Url :=
  let kind := SchemeKind.other
  match text with
  | '/' :: '/' :: rest => readAfterSlashes scheme kind rest
  | '/' :: rest =>
    let (path, tail) := readPath kind [] rest
    .ok (withTail kind { scheme, path } tail)
  | text =>
    let path := text.takeWhile (!endsPath ·)
    .ok (withTail kind { scheme, path := .opaqueText (Percent.encode isControlOrForeign path) }
      (text.drop path.length))

/-- Reads a scheme and its colon. -/
def readScheme? (text : List Char) : Option (List Char × List Char) :=
  let isSchemeChar := fun c : Char => c.isAlphanum || c == '+' || c == '-' || c == '.'
  let scheme := text.takeWhile isSchemeChar
  match text.drop scheme.length with
  | ':' :: rest => if scheme.head?.any isLetter then some (scheme.map Char.toLower, rest) else none
  | _ => none

/-- The text as it is read: without controls and blanks at its ends, and without tabs and line
breaks. -/
def cleaned (text : List Char) : List Char :=
  let isOuter := fun c : Char => c.toNat ≤ 32
  (((text.dropWhile isOuter).reverse.dropWhile isOuter).reverse).filter
    fun c => !(c == '\t' || c == '\n' || c == '\r')

/-- Reads an address against a base. -/
def parseWith (base : Option Url) (text : List Char) : Except ParseError Url :=
  let text := cleaned text
  match readScheme? text with
  | some (scheme, rest) =>
    match SchemeKind.of scheme with
    | .file => readFile (base.filter (·.scheme = fileScheme)) rest
    | .other => readOther scheme rest
    | .web =>
      let slashes := (rest.takeWhile fun c => c == '/' || c == '\\').length
      match base.filter (·.scheme = scheme) with
      | some base =>
        if slashes < 2 then readRelative base .web rest
        else readAfterSlashes scheme .web (rest.drop slashes)
      | none => readAfterSlashes scheme .web (rest.drop slashes)
  | none =>
    match base with
    | none => .error .relativeWithoutBase
    | some base =>
      match text, base.path with
      | '#' :: fragment, _ =>
        .ok { base with fragment := some (Percent.encode inFragment fragment) }
      | _, .opaqueText _ => .error .relativeWithOpaqueBase
      | text, _ =>
        match SchemeKind.of base.scheme with
        | .file => readFile (some base) text
        | kind => readRelative base kind text

/-- Reads an address. -/
def parse (text : List Char) : Except ParseError Url := parseWith none text

/-- Reads an address against this one. -/
def join (base : Url) (text : List Char) : Except ParseError Url := parseWith (some base) text

end ForwardProxy.Url
