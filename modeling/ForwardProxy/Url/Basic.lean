import ForwardProxy.Net.Address

/-!
# Web addresses

A web address in its parts, and its text. The parts are kept in the form in which they are written:
percent-encoded, and host names in ASCII.
-/

namespace ForwardProxy

/-- The host of a web address. -/
inductive Url.Host where
  /-- A name, which may be empty. -/
  | name (text : List Char)
  /-- An address of the short kind. -/
  | v4 (address : Net.Ipv4)
  /-- An address of the long kind. -/
  | v6 (address : Net.Ipv6)
  deriving DecidableEq

/-- The path of a web address. -/
inductive Url.Path where
  /-- Text without structure, for schemes that name no place. -/
  | opaqueText (text : List Char)
  /-- Segments, each of which follows a slash. -/
  | segments (list : List (List Char))
  deriving DecidableEq

/-- A web address. -/
structure Url where
  /-- The scheme, in lower case. -/
  scheme : List Char
  /-- The name of the user, which may be empty. -/
  username : List Char := []
  /-- The password of the user, if it is not empty. -/
  password : Option (List Char) := none
  /-- The host. An address without one has no double slash. -/
  host : Option Url.Host := none
  /-- The port, unless it is the one that goes with the scheme. -/
  port : Option Nat := none
  /-- The path. -/
  path : Url.Path
  /-- The query, without its question mark. -/
  query : Option (List Char) := none
  /-- The fragment, without its number sign. -/
  fragment : Option (List Char) := none
  deriving DecidableEq

namespace Url

/-- The text of a host. -/
def Host.text : Host → List Char
  | name text => text
  | v4 address => address.text
  | v6 address => ['['] ++ address.text ++ [']']

/-- The text of a path. -/
def Path.text : Path → List Char
  | opaqueText text => text
  | segments list => list.flatMap ('/' :: ·)

/-- What stands before the host: the name and the password of the user, with an at-sign. -/
def userText (url : Url) : List Char :=
  match url.username, url.password with
  | [], none => []
  | user, none => user ++ ['@']
  | user, some password => user ++ [':'] ++ password ++ ['@']

/-- The double slash with the user, the host and the port, if there is a host. -/
def authorityText (url : Url) : List Char :=
  match url.host with
  | none => []
  | some host =>
    ['/', '/'] ++ url.userText ++ host.text ++
      match url.port with
      | some port => ':' :: Nat.toDigits 10 port
      | none => []

/-- The path as it is written. Without a host, one that starts with two slashes is marked as a path
by a dot. -/
def pathText (url : Url) : List Char :=
  match url.host, url.path with
  | none, .segments ([] :: segment :: rest) =>
    ['/', '.'] ++ (Path.segments ([] :: segment :: rest)).text
  | _, path => path.text

/-- The query with its question mark, or nothing. -/
def queryText (url : Url) : List Char :=
  match url.query with
  | some query => '?' :: query
  | none => []

/-- The fragment with its number sign, or nothing. -/
def fragmentText (url : Url) : List Char :=
  match url.fragment with
  | some fragment => '#' :: fragment
  | none => []

/-- The text of a web address. -/
def chars (url : Url) : List Char :=
  url.scheme ++ [':'] ++ url.authorityText ++ url.pathText ++ url.queryText ++ url.fragmentText

/-- The text of a web address. -/
def text (url : Url) : String := String.ofList url.chars

/-- The text of the host, empty if there is none. -/
def hostText (url : Url) : List Char :=
  match url.host with
  | some host => host.text
  | none => []

/-- The port that goes with a scheme. -/
def defaultPort? (scheme : List Char) : Option Nat :=
  if scheme = "http".toList ∨ scheme = "ws".toList then some 80
  else if scheme = "https".toList ∨ scheme = "wss".toList then some 443
  else if scheme = "ftp".toList then some 21
  else none

/-- The port that a connection would use. -/
def effectivePort? (url : Url) : Option Nat := url.port.or (defaultPort? url.scheme)

/-- Without user and password. -/
def withoutUser (url : Url) : Url := { url with username := [], password := none }

/-- Without fragment. -/
def withoutFragment (url : Url) : Url := { url with fragment := none }

/-- Why a text is not a web address. -/
inductive ParseError where
  /-- A scheme that needs a host has none. -/
  | emptyHost
  /-- The host is not a domain name. -/
  | idna
  /-- The port is not a number up to 65535. -/
  | invalidPort
  /-- The host ends in a number but is not an address of the short kind. -/
  | invalidIpv4Address
  /-- The host is in brackets but not an address of the long kind. -/
  | invalidIpv6Address
  /-- The host holds a character that it may not. -/
  | invalidDomainCharacter
  /-- There is no scheme. -/
  | relativeWithoutBase
  /-- There is no scheme, and the base names no place. -/
  | relativeWithOpaqueBase
  deriving DecidableEq

/-- The wording of a refusal. -/
def ParseError.message : ParseError → String
  | emptyHost => "empty host"
  | idna => "invalid international domain name"
  | invalidPort => "invalid port number"
  | invalidIpv4Address => "invalid IPv4 address"
  | invalidIpv6Address => "invalid IPv6 address"
  | invalidDomainCharacter => "invalid domain character"
  | relativeWithoutBase => "relative URL without a base"
  | relativeWithOpaqueBase => "relative URL with a cannot-be-a-base base"

end Url

end ForwardProxy
