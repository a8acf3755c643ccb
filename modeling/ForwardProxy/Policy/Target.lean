import ForwardProxy.Http.Message
import ForwardProxy.Url.Form
import ForwardProxy.Url.Parser

/-!
# The target of a request

A client names the address that it wants fetched in the pair `url` of the query, or by making its
request in absolute form. The query counts first, unless the pair is empty.
-/

namespace ForwardProxy.Policy

open Http

/-- Why a request has no target. -/
inductive TargetError where
  /-- It names none. -/
  | missing
  /-- What it names is not a web address. -/
  | invalid (cause : Url.ParseError)
  deriving DecidableEq

/-- Reads a text as a target. -/
def targetOfText (text : List Char) : Except TargetError Url :=
  match Url.parse text with
  | .ok url => .ok url
  | .error cause => .error (.invalid cause)

/-- The target of a request that makes its request in absolute form. -/
def absoluteTarget (uri : RequestUri) : Except TargetError Url :=
  match uri.absoluteText? with
  | some text => targetOfText (Utf8.decodeLossy text)
  | none => .error .missing

/-- The target of a request. -/
def resolveTarget (uri : RequestUri) : Except TargetError Url :=
  match uri.query?.bind (Url.Form.value? "url".toList) with
  | some (c :: rest) => targetOfText (c :: rest)
  | _ => absoluteTarget uri

/-- The host that the allow-list is asked about, with the port if it is not the usual one. -/
def targetHost (target : Url) : List Char :=
  target.hostText ++
    match target.port with
    | some port => ':' :: Nat.toDigits 10 port
    | none => []

/-- The key under which the answer to a request for a target is kept. -/
def cacheKey (method : Method) (target : Url) : String :=
  method.name ++ ":" ++ target.text

end ForwardProxy.Policy
