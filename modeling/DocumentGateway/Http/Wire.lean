import DocumentGateway.Http.Exchange
import DocumentGateway.Text.Cut

/-!
# Messages on the wire

How requests and responses are spelled on a connection: a line about the message, a line for each
header, an empty line and the body, whose length a header gives. A response says that the connection
ends with it.
-/

namespace DocumentGateway.Http.Wire

/-- The end of a line. -/
def newline : Bytes := [0x0D, 0x0A]

/-- The lines of some bytes. -/
def lines : Bytes → List Bytes
  | [] => [[]]
  | 0x0D :: 0x0A :: rest => [] :: lines rest
  | b :: rest =>
    match lines rest with
    | [] => [[b]]
    | line :: others => (b :: line) :: others

/-- The method and the target that the first line of a request names. -/
def requestLine? (line : Bytes) : Option (Method × Uri) := do
  let (method, rest) ← Text.splitFirst (· == 0x20) line
  let (target, version) ← Text.splitFirst (· == 0x20) rest
  guard (version == Text.Utf8.encode "HTTP/1.1" || version == Text.Utf8.encode "HTTP/1.0")
  let method ← (Text.Utf8.decodeText? method).bind Method.ofText?
  let uri ← (Text.Utf8.decodeText? target).bind Uri.ofText?
  return (method, uri)

/-- The header that a line gives. -/
def header? (line : Bytes) : Option Header := do
  let (name, value) ← Text.splitFirst (· == 0x3A) line
  let name ← (Text.Utf8.decodeText? name).bind HeaderName.ofText?
  let value ← HeaderValue.ofBytes? (Text.trim Text.isBlankByte value)
  return ⟨name, value⟩

/-- What the lines before the body of a request say. -/
def head? (block : Bytes) : Option RequestHead := do
  match lines block with
  | [] => none
  | first :: others =>
    let (method, uri) ← requestLine? first
    let headers ← others.mapM header?
    return ⟨method, uri, headers⟩

/-- The number that decimal digits spell. -/
def decimal? (s : String) : Option Nat :=
  if !s.toList.isEmpty && s.toList.all Char.isDigit then some (Text.digitsValue 10 0 s.toList)
  else none

/-- How many bytes the body of a request has; a body in pieces is not read. -/
def bodyLength? (head : RequestHead) : Option Nat :=
  if head.headers.has "transfer-encoding" then none
  else
    match head.headers.first? "content-length" with
    | none => some 0
    | some value => value.text?.bind decimal?

/-- What the bytes that have arrived hold. -/
inductive Arrival where
  /-- Less than a request. -/
  | incomplete
  /-- Nothing that a request begins with. -/
  | malformed
  /-- A request. -/
  | complete (request : Request)
  deriving DecidableEq

/-- Read a request from the bytes that have arrived. -/
def arrival (bytes : Bytes) : Arrival :=
  match Text.breakOn (newline ++ newline) bytes with
  | none => .incomplete
  | some (block, rest) =>
    match head? block with
    | none => .malformed
    | some head =>
      match bodyLength? head with
      | none => .malformed
      | some length =>
        if rest.length < length then .incomplete
        else .complete ⟨head, .ofBytes (rest.take length)⟩

/-- The bytes of a header line. -/
def headerLine (name : String) (value : Bytes) : Bytes :=
  Text.Utf8.encode (name ++ ": ") ++ value ++ newline

/-- The bytes of a response. -/
def render (r : Response) : Bytes :=
  let body := r.body.getD []
  let reason := r.status.reason?.getD ""
  Text.Utf8.encode s!"HTTP/1.1 {r.status.code} {reason}" ++ newline
    ++ (r.headers.flatMap fun (name, value) => headerLine name value.bytes)
    ++ (if r.status = .noContent then []
      else headerLine "content-length" (Text.Utf8.encode (toString body.length)))
    ++ headerLine "connection" (Text.Utf8.encode "close")
    ++ newline ++ body

end DocumentGateway.Http.Wire
