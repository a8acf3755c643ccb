import ForwardProxy.Http.Message
import ForwardProxy.Text.Search

/-!
# What may be kept

An answer is kept only if it is a plain success, and neither it nor the request for it says that it
is for one client. Of a name with several values only the first one counts, and a value counts as
text only if it is printable ASCII.
-/

namespace ForwardProxy.Policy

open Http

/-- The directive against keeping an answer. -/
def noStore : List Char := "no-store".toList

/-- Whether the first directives for caches hold the one against keeping an answer. -/
def forbidsStoring (headers : Headers) : Bool :=
  ((headers.get? .cacheControl).bind (·.text?)).any (Text.occursIn noStore)

/-- Whether the first value of a field has any octets. -/
def hasContent (headers : Headers) (name : FieldName) : Bool :=
  (headers.get? name).any (!·.bytes.isEmpty)

/-- Whether the cache is asked about a request: it only reads, carries no credentials, and does not
forbid keeping the answer. -/
def requestCacheable (method : Method) (headers : Headers) : Bool :=
  (method == .get || method == .head) && !hasContent headers .authorization &&
    !forbidsStoring headers

/-- Whether a response may be kept: it is a plain success, gives no cookie, and does not forbid
it. -/
def responseCacheable (status : Status) (headers : Headers) : Bool :=
  status == .ok && !forbidsStoring headers && !hasContent headers .setCookie

end ForwardProxy.Policy
