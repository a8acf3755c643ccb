import ForwardProxy.Client.Fetch
import ForwardProxy.Policy.Target

/-!
# Failures

Whatever keeps the proxy from answering a request is told to the client as a response in plain text.
-/

namespace ForwardProxy.Proxy

open Http

/-- Why a request gets no proper answer. -/
inductive Failure where
  /-- The request names no target. -/
  | missingTarget
  /-- What the request names is not a web address. -/
  | invalidTarget (cause : Url.ParseError)
  /-- The body of the request cannot be read. -/
  | invalidBody (reason : String)
  /-- The host of the target may not be fetched from. -/
  | hostNotAllowed (host : List Char)
  /-- The fetch failed. -/
  | badGateway (cause : Client.FetchError)
  /-- The client sent more requests than it may. -/
  | rateLimited
  /-- The pool of workers takes no more jobs. -/
  | poolStopped
  /-- The worker broke down. -/
  | workerFailed
  /-- Nothing can be fetched at all. -/
  | noClient (cause : Client.FetchError)
  deriving DecidableEq

namespace Failure

/-- The failure for a target that cannot be resolved. -/
def ofTargetError : Policy.TargetError → Failure
  | .missing => missingTarget
  | .invalid cause => invalidTarget cause

/-- The status code of the response. -/
def status : Failure → Status
  | missingTarget | invalidTarget _ | invalidBody _ => .badRequest
  | hostNotAllowed _ => .forbidden
  | rateLimited => .tooManyRequests
  | badGateway _ => .badGateway
  | poolStopped => .serviceUnavailable
  | workerFailed | noClient _ => .internalServerError

/-- The body of the response. -/
def message : Failure → String
  | missingTarget => "Invalid proxy request. URL must include scheme and host."
  | invalidTarget _ => "Invalid URL format"
  | invalidBody reason => "Error reading request body: " ++ reason
  | hostNotAllowed _ => "Domain not allowed"
  | badGateway cause => "Error forwarding request: " ++ cause.message
  | rateLimited => "Rate limit exceeded"
  | poolStopped => "Proxy is shutting down"
  | workerFailed => "Internal proxy error"
  | noClient cause => "HTTP client error: " ++ cause.message

/-- The wording of what caused the failure, if something else did. -/
def cause? : Failure → Option String
  | invalidTarget cause => some cause.message
  | badGateway cause | noClient cause => some cause.message
  | _ => none

end Failure

/-- The type of plain text. -/
def plainText : FieldValue := { bytes := Bytes.ofAscii "text/plain; charset=utf-8" }

/-- A response in plain text. -/
def textResponse (status : Status) (text : String) : Response where
  status := status
  headers := Headers.empty.insert .contentType plainText
  body := Utf8.encode text.toList

/-- The response that tells a client of a failure. -/
def Failure.response (failure : Failure) : Response := textResponse failure.status failure.message

end ForwardProxy.Proxy
