import ForwardProxy.Gzip.Stored
import ForwardProxy.Http.Message
import ForwardProxy.Text.Blank

/-!
# Compression of responses

A client says in its request which codings it accepts, each with a quality between zero and one. A
response is compressed if the client likes compressed data at least as well as plain, and if its body
is long enough and of a type that compression makes smaller.
-/

namespace ForwardProxy.Service

open Http

/-- A coding that a client may ask for. -/
inductive Coding where
  /-- The data as it is. -/
  | plain
  /-- Compressed data. -/
  | gzip
  deriving DecidableEq

/-- Reads the name of a coding in any letter case. Others than these two are not known. -/
def Coding.ofText? (text : List Char) : Option Coding :=
  let name := String.ofList (text.map Char.toLower)
  if name = "gzip" ∨ name = "x-gzip" then some .gzip
  else if name = "identity" then some .plain
  else none

/-- Reads a quality in thousandths: one digit, zero or one, then a point and up to three digits, or
nothing. It is at most one. -/
def quality? : List Char → Option Nat
  | mark :: '=' :: whole :: rest =>
    if (mark = 'q' ∨ mark = 'Q') ∧ (whole = '0' ∨ whole = '1') then
      let ones := if whole = '1' then 1000 else 0
      match rest with
      | [] => some ones
      | '.' :: digits =>
        if digits.length ≤ 3 ∧ digits.all Char.isDigit then
          let places := digits ++ List.replicate (3 - digits.length) '0'
          let total := ones + places.foldl (fun n c => n * 10 + (c.toNat - 48)) 0
          if total ≤ 1000 then some total else none
        else none
      | _ => none
    else none
  | _ => none

/-- Reads one coding with its quality, which is one if it is not given. -/
def offer? (text : List Char) : Option (Coding × Nat) := do
  let name := text.takeWhile (· ≠ ';')
  let coding ← Coding.ofText? (Text.trim name)
  let quality ←
    match text.drop name.length with
    | _ :: rest => quality? (Text.trim rest)
    | [] => some 1000
  return (coding, quality)

/-- The codings that a client accepts, from all values of the field that are text. -/
def offers (headers : Headers) : List (Coding × Nat) :=
  ((headers.values .acceptEncoding).filterMap (·.text?)).flatMap fun text =>
    (text.splitOn ',').filterMap offer?

/-- The best quality of a coding, zero if it is not offered. -/
def bestQuality (coding : Coding) (offers : List (Coding × Nat)) : Nat :=
  ((offers.filter (·.1 == coding)).map (·.2)).foldl max 0

/-- Whether a client wants compressed data: it accepts it, and likes plain data no better. -/
def wantsGzip (headers : Headers) : Bool :=
  let offers := offers headers
  0 < bestQuality .gzip offers && bestQuality .plain offers ≤ bestQuality .gzip offers

/-- The least number of octets in a body that is compressed. -/
def minCompressedSize : Nat := 32

/-- The types of bodies that gain nothing from compression, by how they begin. -/
def incompressibleTypes : List (List Char) :=
  ["image/".toList, "application/grpc".toList, "text/event-stream".toList]

/-- The one type of images that does gain from compression. -/
def vectorImage : List Char := "image/svg+xml".toList

/-- Whether a body of a type gains from compression. -/
def isCompressibleType (type : List Char) : Bool :=
  type == vectorImage || !incompressibleTypes.any (·.isPrefixOf type)

/-- Whether a response may be compressed: its body is not coded yet, is whole, long enough, and of a
type that gains from it. -/
def isCompressible (response : Response) : Bool :=
  !response.headers.contains .contentEncoding && !response.headers.contains .contentRange &&
    minCompressedSize ≤ response.body.length &&
    isCompressibleType (((response.headers.get? .contentType).bind (·.text?)).getD [])

/-- The value that names the field on which compression depends. -/
def varyEncoding : FieldValue := { bytes := Bytes.ofAscii "accept-encoding" }

/-- The name of compressed data. -/
def gzipCoding : FieldValue := { bytes := Bytes.ofAscii "gzip" }

/-- The response for a client with the given request fields. One that may be compressed says that it
depends on them. -/
def compressFor (request : Headers) (response : Response) : Response :=
  if isCompressible response then
    let headers := response.headers.append .vary varyEncoding
    if wantsGzip request then
      { response with
        headers := (headers.eraseAll [.acceptRanges, .contentLength]).insert .contentEncoding gzipCoding
        body := Gzip.compress response.body }
    else { response with headers }
  else response

end ForwardProxy.Service
