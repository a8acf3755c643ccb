import ForwardProxy.Text.Utf8

/-!
# Request targets

The target in a request line has one of four forms: a path with a query, an absolute URI, an
authority alone, or an asterisk. A fragment is cut off. Apart from the two schemes of the web, which
are recognised in any letter case, nothing is normalised.
-/

namespace ForwardProxy.Http

/-- Why a request target is refused. -/
inductive UriError where
  /-- There is nothing to read. -/
  | empty
  /-- An octet stands where it may not. -/
  | invalidChar
  /-- The authority is not one. -/
  | invalidAuthority
  /-- The parts do not make up one of the four forms. -/
  | invalidFormat
  /-- The target is too long. -/
  | tooLong
  /-- The scheme is too long. -/
  | schemeTooLong
  deriving DecidableEq

/-- The wording of a refusal. -/
def UriError.message : UriError → String
  | .empty => "empty string"
  | .invalidChar => "invalid uri character"
  | .invalidAuthority => "invalid authority"
  | .invalidFormat => "invalid format"
  | .tooLong => "uri too long"
  | .schemeTooLong => "scheme too long"

/-- The target of a request. -/
inductive RequestUri where
  /-- The server as a whole. -/
  | asterisk
  /-- A path on the server that is asked, and a query. -/
  | origin (path : Bytes) (query : Option Bytes)
  /-- A host, with a port and user information if given. -/
  | authority (authority : Bytes)
  /-- A resource anywhere. -/
  | absolute (scheme authority path : Bytes) (query : Option Bytes)
  deriving DecidableEq

namespace RequestUri

/-- The greatest number of octets in a target. -/
def maxLength : Nat := 65534

/-- The greatest number of octets in a scheme that is not one of the web. -/
def maxSchemeLength : Nat := 64

/-- The greatest number of colons before a bracket or at-sign closes their count. -/
def maxColons : Nat := 8

private def isAlphanumeric (b : UInt8) : Bool :=
  (48 ≤ b && b ≤ 57) || (65 ≤ b && b ≤ 90) || (97 ≤ b && b ≤ 122)

/-- An octet that a scheme may hold, the colon after it included. -/
def isSchemeOctet (b : UInt8) : Bool :=
  isAlphanumeric b || (Bytes.ofAscii "+-.~:").contains b

/-- An octet that an authority may hold. -/
def isAuthorityOctet (b : UInt8) : Bool :=
  isAlphanumeric b || (Bytes.ofAscii "!$&'()*+,-.:;=@[]_~").contains b

/-- An octet that ends an authority. -/
def endsAuthority (b : UInt8) : Bool := b == 47 || b == 63 || b == 35

/-- An octet that a path may hold as it is, the ASCII ones. -/
def isPathOctet (b : UInt8) : Bool :=
  b == 0x21 || b == 0x22 || (0x24 ≤ b && b ≤ 0x3B) || b == 0x3D || (0x40 ≤ b && b ≤ 0x5F) ||
    (0x61 ≤ b && b ≤ 0x7E)

/-- An octet that a query may hold as it is, the ASCII ones. -/
def isQueryOctet (b : UInt8) : Bool :=
  b == 0x21 || (0x24 ≤ b && b ≤ 0x3B) || b == 0x3D || (0x3F ≤ b && b ≤ 0x7E)

/-- What a scan of an authority has seen so far. -/
structure AuthorityScan where
  /-- Colons since the last bracket or at-sign. -/
  colons : Nat := 0
  /-- An opening bracket was seen. -/
  opened : Bool := false
  /-- A closing bracket was seen. -/
  closed : Bool := false
  /-- A percent sign was seen since the last bracket or at-sign. -/
  percent : Bool := false
  /-- The last octet was an at-sign. -/
  afterAt : Bool := false

/-- The scan after one octet more. -/
def AuthorityScan.step (scan : AuthorityScan) (b : UInt8) : Except UriError AuthorityScan :=
  let scan := { scan with afterAt := false }
  if b = 58 then
    if scan.colons ≥ maxColons then .error .invalidAuthority
    else .ok { scan with colons := scan.colons + 1 }
  else if b = 91 then
    if scan.percent || scan.opened then .error .invalidAuthority
    else .ok { scan with opened := true }
  else if b = 93 then
    if !scan.opened || scan.closed then .error .invalidAuthority
    else .ok { scan with closed := true, colons := 0, percent := false }
  else if b = 64 then .ok { scan with colons := 0, percent := false, afterAt := true }
  else if b = 37 then .ok { scan with percent := true }
  else if isAuthorityOctet b then .ok scan
  else .error .invalidChar

/-- An authority may end here: its brackets match, at most one colon is left for the port, something
follows the at-sign, and no percent sign stands in the host. -/
def AuthorityScan.complete (scan : AuthorityScan) : Bool :=
  scan.opened == scan.closed && scan.colons ≤ 1 && !scan.afterAt && !scan.percent

/-- Splits off the authority at the front, up to a slash, a question mark or a number sign. -/
def splitAuthority (data : Bytes) : Except UriError (Bytes × Bytes) := do
  if data.isEmpty then throw .empty
  let front := data.takeWhile (!endsAuthority ·)
  let scan ← front.foldlM AuthorityScan.step {}
  if scan.complete then return (front, data.drop front.length) else throw .invalidAuthority

/-- The scheme at the front and what follows its two slashes, or `none` if the target does not start
with a scheme. -/
def splitScheme? (data : Bytes) : Except UriError (Option (Bytes × Bytes)) :=
  let lower := fun b : UInt8 => if 65 ≤ b && b ≤ 90 then b + 32 else b
  let starts := fun text : String =>
    (data.take text.length).map lower == Bytes.ofAscii text
  if starts "http://" then .ok (some (Bytes.ofAscii "http", data.drop 7))
  else if starts "https://" then .ok (some (Bytes.ofAscii "https", data.drop 8))
  else if data.length ≤ 3 then .ok none
  else
    let scheme := data.takeWhile fun b => b != 58 && isSchemeOctet b
    match (Bytes.ofAscii "://").isPrefixOf? (data.drop scheme.length) with
    | none => .ok none
    | some rest =>
      if scheme.length > maxSchemeLength then .error .schemeTooLong
      else .ok (some (scheme, rest))

/-- Reads a path and a query, without the fragment after them. -/
def parsePathAndQuery (data : Bytes) : Except UriError (Bytes × Option Bytes) := do
  let isOther := fun b : UInt8 => 0x7F ≤ b
  let path := data.takeWhile fun b => b != 63 && b != 35
  unless path.all (fun b => isPathOctet b || isOther b) do throw .invalidChar
  let query ←
    match data.drop path.length with
    | 63 :: rest => do
      let query := rest.takeWhile (· != 35)
      unless query.all (fun b => isQueryOctet b || isOther b) do throw .invalidChar
      pure (some query)
    | _ => pure none
  if (Utf8.decode? path).isNone || (Utf8.decode? (query.getD [])).isNone then throw .invalidChar
  return (path, query)

/-- Reads the target of a request. -/
def parse (data : Bytes) : Except UriError RequestUri := do
  if data.length > maxLength then throw .tooLong
  match data with
  | [] => throw .empty
  | [42] => return asterisk
  | 47 :: _ =>
    let (path, query) ← parsePathAndQuery data
    return origin path query
  | [_] =>
    let (front, rest) ← splitAuthority data
    if rest.isEmpty then return authority front else throw .invalidChar
  | _ =>
    match ← splitScheme? data with
    | none =>
      let (front, rest) ← splitAuthority data
      if rest.isEmpty then return authority front else throw .invalidFormat
    | some (scheme, rest) =>
      let (front, rest) ← splitAuthority rest
      if front.isEmpty then throw .invalidFormat
      let (path, query) ← parsePathAndQuery rest
      return absolute scheme front (if path.isEmpty then [47] else path) query

/-- The path of a target. An authority alone has none. -/
def path : RequestUri → Bytes
  | asterisk => [42]
  | origin path _ => path
  | authority _ => []
  | absolute _ _ path _ => path

/-- The query of a target, without its question mark. -/
def query? : RequestUri → Option Bytes
  | origin _ query => query
  | absolute _ _ _ query => query
  | _ => none

/-- The authority of a target. -/
def authority? : RequestUri → Option Bytes
  | authority text => some text
  | absolute _ text _ _ => some text
  | _ => none

/-- A target in absolute form as it is displayed. -/
def absoluteText? : RequestUri → Option Bytes
  | absolute scheme host path query =>
    some (scheme ++ Bytes.ofAscii "://" ++ host ++ path ++
      match query with
      | some query => 63 :: query
      | none => [])
  | _ => none

end RequestUri

end ForwardProxy.Http
