import ForwardProxy.Http.Message
import ForwardProxy.Text.Blank
import ForwardProxy.Text.Integer
import ForwardProxy.Text.Quoted

/-!
# Stored responses

The form in which the cache keeps a response: a line with the status code, a line for each value of
each header field, an empty line, and the body as it is.

Reading finds the end of the header at the first empty line. It takes a status code with blanks
around it, skips header lines without a colon and a space, and quotes the first line that it
cannot make sense of.
-/

namespace ForwardProxy.Cache.StoredResponse

open Http

/-- What separates a name from its value. -/
def colonSpace : Bytes := [58, 32]

/-- The empty line after the header, with the end of the line before it. -/
def headerEnd : Bytes := Bytes.lineEnd ++ Bytes.lineEnd

/-- The written form of a response. -/
def encode (response : Response) : Bytes :=
  response.status.digits ++ Bytes.lineEnd ++
    response.headers.lines.flatMap (fun line =>
      line.1.bytes ++ colonSpace ++ line.2.bytes ++ Bytes.lineEnd) ++
    Bytes.lineEnd ++ response.body

/-- Why octets are not a stored response. -/
inductive DecodeError where
  /-- No empty line ends the header. -/
  | missingSeparator
  /-- The first line is not a status code. -/
  | invalidStatus (line : List Char)
  /-- A header line has a colon and a space, but no name before or no value after them. -/
  | invalidHeader (line : List Char)
  deriving DecidableEq

/-- The wording of a refusal. -/
def DecodeError.message : DecodeError → String
  | missingSeparator => "invalid cached response format: missing header/body separator"
  | invalidStatus line => "invalid status code: " ++ Text.quoted line
  | invalidHeader line => "invalid header line: " ++ Text.quoted line

/-- Reads a status code with blanks around it. -/
def readStatus? (line : Bytes) : Option Status := do
  let text ← Utf8.decode? line
  let code ← Text.unsigned? 65535 (Text.trim text)
  Status.ofCode? code

/-- Adds the value on a header line to the fields before it. -/
def addLine (headers : Headers) (line : Bytes) : Except DecodeError Headers :=
  match line.cut? colonSpace with
  | none => .ok headers
  | some (name, value) =>
    match FieldName.ofBytes? name, FieldValue.ofBytes? value with
    | some name, some value => .ok (headers.append name value)
    | _, _ => .error (.invalidHeader (Utf8.decodeLossy line))

/-- Reads a stored response. -/
def decode (data : Bytes) : Except DecodeError Response := do
  match data.cut? headerEnd with
  | none => throw .missingSeparator
  | some (head, body) =>
    let lines := head.lines
    let first := lines.headD []
    match readStatus? first with
    | none => throw (.invalidStatus (Utf8.decodeLossy first))
    | some status =>
      let headers ← lines.tail.foldlM addLine .empty
      return { status, headers, body }

end ForwardProxy.Cache.StoredResponse
