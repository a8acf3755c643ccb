import ForwardProxy.Http.Token

/-!
# Names of header fields

The names that mean something to the proxy.
-/

namespace ForwardProxy.Http.FieldName

/-- The media types that are accepted. -/
def accept : FieldName := { bytes := Bytes.ofAscii "accept" }

/-- The codings that are accepted. -/
def acceptEncoding : FieldName := { bytes := Bytes.ofAscii "accept-encoding" }

/-- The units in which parts may be asked for. -/
def acceptRanges : FieldName := { bytes := Bytes.ofAscii "accept-ranges" }

/-- The header fields that other sites may send. -/
def accessControlAllowHeaders : FieldName :=
  { bytes := Bytes.ofAscii "access-control-allow-headers" }

/-- The methods that other sites may use. -/
def accessControlAllowMethods : FieldName :=
  { bytes := Bytes.ofAscii "access-control-allow-methods" }

/-- The sites that may read a response though it is not theirs. -/
def accessControlAllowOrigin : FieldName :=
  { bytes := Bytes.ofAscii "access-control-allow-origin" }

/-- The methods that a resource knows. -/
def allow : FieldName := { bytes := Bytes.ofAscii "allow" }

/-- Credentials for a server. -/
def authorization : FieldName := { bytes := Bytes.ofAscii "authorization" }

/-- Directives for caches. -/
def cacheControl : FieldName := { bytes := Bytes.ofAscii "cache-control" }

/-- What concerns one connection only. -/
def connection : FieldName := { bytes := Bytes.ofAscii "connection" }

/-- The coding of a body. -/
def contentEncoding : FieldName := { bytes := Bytes.ofAscii "content-encoding" }

/-- The number of octets in a body. -/
def contentLength : FieldName := { bytes := Bytes.ofAscii "content-length" }

/-- Which part of a resource a body is. -/
def contentRange : FieldName := { bytes := Bytes.ofAscii "content-range" }

/-- The media type of a body. -/
def contentType : FieldName := { bytes := Bytes.ofAscii "content-type" }

/-- What a server gave a client to send back. -/
def cookie : FieldName := { bytes := Bytes.ofAscii "cookie" }

/-- What a server gave a client to send back, in an old form. -/
def cookie2 : FieldName := { bytes := Bytes.ofAscii "cookie2" }

/-- The date after which a response is stale. -/
def expires : FieldName := { bytes := Bytes.ofAscii "expires" }

/-- The host that is asked. -/
def host : FieldName := { bytes := Bytes.ofAscii "host" }

/-- The address of a redirect. -/
def location : FieldName := { bytes := Bytes.ofAscii "location" }

/-- Credentials for a proxy. -/
def proxyAuthorization : FieldName := { bytes := Bytes.ofAscii "proxy-authorization" }

/-- The address that led to a request. -/
def referer : FieldName := { bytes := Bytes.ofAscii "referer" }

/-- How much of an address may be told to other sites. -/
def referrerPolicy : FieldName := { bytes := Bytes.ofAscii "referrer-policy" }

/-- What a client is to send back. -/
def setCookie : FieldName := { bytes := Bytes.ofAscii "set-cookie" }

/-- How the octets of a body travel. -/
def transferEncoding : FieldName := { bytes := Bytes.ofAscii "transfer-encoding" }

/-- The fields of a request on which a response depends. -/
def vary : FieldName := { bytes := Bytes.ofAscii "vary" }

/-- How credentials are to be given. -/
def wwwAuthenticate : FieldName := { bytes := Bytes.ofAscii "www-authenticate" }

/-- Whether a response comes from the cache. -/
def xCache : FieldName := { bytes := Bytes.ofAscii "x-cache" }

/-- Whether the type of a body may be guessed. -/
def xContentTypeOptions : FieldName := { bytes := Bytes.ofAscii "x-content-type-options" }

/-- The address of the client. -/
def xForwardedFor : FieldName := { bytes := Bytes.ofAscii "x-forwarded-for" }

/-- The host that the client asked. -/
def xForwardedHost : FieldName := { bytes := Bytes.ofAscii "x-forwarded-host" }

/-- Whether a page may be shown inside another. -/
def xFrameOptions : FieldName := { bytes := Bytes.ofAscii "x-frame-options" }

/-- The name of the proxy. -/
def xProxyServer : FieldName := { bytes := Bytes.ofAscii "x-proxy-server" }

/-- The number of a request. -/
def xRequestId : FieldName := { bytes := Bytes.ofAscii "x-request-id" }

/-- Whether scripts in addresses are looked for. -/
def xXssProtection : FieldName := { bytes := Bytes.ofAscii "x-xss-protection" }

end ForwardProxy.Http.FieldName
