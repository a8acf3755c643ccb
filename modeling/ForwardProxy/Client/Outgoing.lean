import ForwardProxy.Http.Message
import ForwardProxy.Text.Base64
import ForwardProxy.Url.Parser

/-!
# Outgoing requests

What leaves the proxy for a server. User and password in the target become a header field, unless
the client sent credentials itself.
-/

namespace ForwardProxy.Client

open Http

/-- Any media type. -/
def anyType : FieldValue := { bytes := Bytes.ofAscii "*/*" }

/-- A request for a server. -/
structure Outgoing where
  /-- The method. -/
  method : Method
  /-- The address of the resource. -/
  url : Url
  /-- The header fields. -/
  headers : Headers
  /-- The body, which may be empty. -/
  body : Bytes
  deriving DecidableEq

/-- User and password of an address as text, if it has any. A user whose octets are not text counts
for nothing, and such a password as none. -/
def credentials? (url : Url) : Option (List Char × Option (List Char)) := do
  guard url.host.isSome
  let decode? := fun (text : List Char) => Utf8.decode? (Percent.decode (Utf8.encode text))
  let user ← decode? url.username
  let password := url.password.bind decode?
  guard (!user.isEmpty || password.isSome)
  return (user, password)

/-- The value of the header field for user and password. -/
def basicCredentials (user : List Char) (password : Option (List Char)) : Bytes :=
  Bytes.ofAscii "Basic " ++
    (Base64.encode (Utf8.encode (user ++ ':' :: password.getD []))).map fun c => c.toNat.toUInt8

/-- The request for a target, with the header fields that the proxy passes on. -/
def Outgoing.new (method : Method) (target : Url) (headers : Headers) (body : Bytes) : Outgoing :=
  let (url, own) :=
    match credentials? target with
    | some (user, password) =>
      (target.withoutUser, Headers.empty.insertOctets .authorization (basicCredentials user password))
    | none => (target, .empty)
  let headers := own.extend headers
  { method, url, body
    headers := if headers.contains .accept then headers else headers.insert .accept anyType }

/-- The host as a header field names it, with the port if it is not the usual one. -/
def hostOctets (url : Url) : Bytes :=
  Utf8.encode <| url.hostText ++
    match url.port with
    | some port => ':' :: Nat.toDigits 10 port
    | none => []

/-- The header fields as they travel, with the host, and the length of a body. -/
def Outgoing.sentHeaders (request : Outgoing) : Headers :=
  let headers :=
    if request.headers.contains .host then request.headers
    else request.headers.insertOctets .host (hostOctets request.url)
  if request.body.isEmpty || headers.contains .contentLength then headers
  else
    headers.insertOctets .contentLength
      (Bytes.ofAscii (String.ofList (Nat.toDigits 10 request.body.length)))

/-- The request as it travels. -/
def Outgoing.sent (request : Outgoing) : Outgoing := { request with headers := request.sentHeaders }

/-- Whether an address can be asked over the web: it has one of the two schemes, and its text is a
request target. -/
def isFetchable (url : Url) : Bool :=
  (url.scheme == "http".toList || url.scheme == "https".toList) &&
    match RequestUri.parse (Utf8.encode url.chars) with
    | .ok _ => true
    | .error _ => false

end ForwardProxy.Client
