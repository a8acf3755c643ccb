import ForwardProxy.Http.Message
import ForwardProxy.Text.Utf8

/-!
# Forwarded header fields

The header fields that the proxy passes on are the client's own, but for the two that concern only
the connection to the proxy. Two fields tell the server who asked, and for which host.
-/

namespace ForwardProxy.Proxy

open Http

/-- The host that the client asked: the first that it named, or the one in its request target. -/
def askedHost? (request : Request) : Option Bytes :=
  ((request.headers.get? .host).map (·.bytes)).or request.uri.authority?

/-- Gives a name one value if there is one, and else leaves it alone. -/
def insertIfSome (headers : Headers) (name : FieldName) (octets : Option Bytes) : Headers :=
  match octets with
  | some octets => headers.insertOctets name octets
  | none => headers

/-- The header fields that are passed on for a request. -/
def forwardedHeaders (request : Request) : Headers :=
  let own := (request.headers.erase .connection).erase .host
  let withClient :=
    insertIfSome own .xForwardedFor (request.peer.map fun peer => Utf8.encode peer.text)
  insertIfSome withClient .xForwardedHost (askedHost? request)

end ForwardProxy.Proxy
