import ForwardProxy.Http.FieldNames
import ForwardProxy.Http.Headers
import ForwardProxy.Http.Method
import ForwardProxy.Http.RequestUri
import ForwardProxy.Net.Address

/-!
# Requests and responses
-/

namespace ForwardProxy.Http

/-- A request of a client. -/
structure Request where
  /-- The method. -/
  method : Method
  /-- The target on the request line. -/
  uri : RequestUri
  /-- The header fields. -/
  headers : Headers
  /-- The body, which may be empty. -/
  body : Bytes
  /-- The address that the client sends from, if it is known. -/
  peer : Option Net.SocketAddress := none
  deriving DecidableEq

/-- An answer to a request. -/
structure Response where
  /-- The status code. -/
  status : Status
  /-- The header fields. -/
  headers : Headers
  /-- The body, which may be empty. -/
  body : Bytes
  deriving DecidableEq

end ForwardProxy.Http
