import ForwardProxy.Http.Token

/-!
# Methods and status codes
-/

namespace ForwardProxy.Http

/-- A character that a token may hold. -/
def isTokenChar (c : Char) : Bool := c.toNat < 128 && isTokenOctet c.toNat.toUInt8

/-- Whether a text is a token. -/
def isToken (text : String) : Bool := !text.toList.isEmpty && text.toList.all isTokenChar

/-- The method of a request. Case counts: `get` is another method than `GET`. -/
@[ext] structure Method where
  /-- The name of the method. -/
  name : String
  /-- It is a token. -/
  valid : isToken name = true := by decide
  deriving DecidableEq

namespace Method

/-- Reads a method. -/
def ofBytes? (bytes : Bytes) : Option Method :=
  if h : isToken bytes.toAscii = true then some ⟨bytes.toAscii, h⟩ else none

/-- Fetches a resource. -/
def get : Method := { name := "GET" }

/-- Fetches the header fields of a resource. -/
def head : Method := { name := "HEAD" }

/-- Submits a body to a resource. -/
def post : Method := { name := "POST" }

/-- Asks what a resource allows. -/
def options : Method := { name := "OPTIONS" }

end Method

/-- A status code of three digits. -/
@[ext] structure Status where
  /-- The number. -/
  code : Nat
  /-- It has three digits. -/
  valid : 100 ≤ code ∧ code ≤ 999 := by decide
  deriving DecidableEq

namespace Status

/-- Reads a status code. -/
def ofCode? (code : Nat) : Option Status :=
  if h : 100 ≤ code ∧ code ≤ 999 then some ⟨code, h⟩ else none

/-- The request succeeded. -/
def ok : Status := { code := 200 }

/-- The resource has a new address. -/
def movedPermanently : Status := { code := 301 }

/-- The resource is at another address for now. -/
def found : Status := { code := 302 }

/-- The answer is at another address. -/
def seeOther : Status := { code := 303 }

/-- The request is to be repeated elsewhere, unchanged. -/
def temporaryRedirect : Status := { code := 307 }

/-- The request is to be repeated elsewhere from now on, unchanged. -/
def permanentRedirect : Status := { code := 308 }

/-- The request makes no sense. -/
def badRequest : Status := { code := 400 }

/-- The request is refused. -/
def forbidden : Status := { code := 403 }

/-- The resource does not know the method. -/
def methodNotAllowed : Status := { code := 405 }

/-- The body is longer than accepted. -/
def contentTooLarge : Status := { code := 413 }

/-- The client sent more requests than it may. -/
def tooManyRequests : Status := { code := 429 }

/-- The proxy failed. -/
def internalServerError : Status := { code := 500 }

/-- The server behind the proxy failed. -/
def badGateway : Status := { code := 502 }

/-- The proxy is closing down. -/
def serviceUnavailable : Status := { code := 503 }

/-- The three digits of the code. -/
def digits (status : Status) : Bytes :=
  [(48 + status.code / 100).toUInt8, (48 + status.code / 10 % 10).toUInt8,
    (48 + status.code % 10).toUInt8]

end Status

end ForwardProxy.Http
