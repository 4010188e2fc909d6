import DocumentGateway.Http.Body
import DocumentGateway.Http.Form
import DocumentGateway.Http.Header
import DocumentGateway.Http.Method
import DocumentGateway.Http.Status
import DocumentGateway.Http.Uri

/-!
# Exchanges

A request together with the response that is being built for it. The body can be taken once. When
the exchange has ended, its response no longer changes: later writes are dropped without a word.
-/

namespace DocumentGateway.Http

/-- What precedes the body of a request. -/
structure RequestHead where
  /-- The method. -/
  method : Method
  /-- The target. -/
  uri : Uri
  /-- The headers. -/
  headers : Headers
  deriving DecidableEq

/-- A request. -/
structure Request where
  /-- What precedes the body. -/
  head : RequestHead
  /-- The body. -/
  body : Body
  deriving DecidableEq

/-- A response. -/
structure Response where
  /-- The status. -/
  status : Status
  /-- The value of each header, under its name. -/
  headers : Keyed HeaderValue
  /-- The body, if there is one. -/
  body : Option Bytes
  deriving DecidableEq

/-- The media types of the gateway's own responses. -/
inductive MediaType where
  | text
  | json
  | hal
  deriving DecidableEq, Repr

/-- The name of a media type. -/
def MediaType.name : MediaType → String
  | .text => "text/plain; charset=utf-8"
  | .json => "application/json"
  | .hal => "application/hal+json"

/-- The value of the header that names a media type. -/
def MediaType.value (t : MediaType) : HeaderValue where
  bytes := Text.Utf8.encode t.name
  legal := by cases t <;> decide

/-- A request and the response being built. -/
structure Exchange where
  /-- What precedes the request's body. -/
  request : RequestHead
  /-- The request's body, until it is taken. -/
  body : Option Body
  /-- The response so far. -/
  response : Response
  /-- Whether the response is final. -/
  ended : Bool
  deriving DecidableEq

namespace Exchange

/-- The exchange that a request opens. -/
def ofRequest (r : Request) : Exchange := ⟨r.head, some r.body, ⟨.ok, [], none⟩, false⟩

/-- The values of the request's `Content-Type` that count as text. -/
def contentTypes (x : Exchange) : List String :=
  (x.request.headers.values "content-type").filterMap HeaderValue.text?

/-- Whether the query has a parameter with a name. -/
def hasParam (x : Exchange) (name : String) : Bool :=
  match x.request.uri.query with
  | some query => (Form.pairs (Text.Utf8.encode query)).any fun pair => pair.1 = name
  | none => false

/-- Take the body; the second exchange has none left. -/
def takeBody (x : Exchange) : Option Body × Exchange := (x.body, { x with body := none })

/-- Take the whole request; the second exchange has no body left. -/
def takeRequest (x : Exchange) : Option Request × Exchange :=
  (x.body.map fun body => ⟨x.request, body⟩, { x with body := none })

/-- Change the response, unless it is final. -/
def amend (x : Exchange) (change : Response → Response) : Exchange :=
  if x.ended then x else { x with response := change x.response }

/-- Set the status. -/
def setStatus (x : Exchange) (status : Status) : Exchange :=
  x.amend fun r => { r with status := status }

/-- Set the value of a header. -/
def setHeader (x : Exchange) (name : String) (value : HeaderValue) : Exchange :=
  x.amend fun r => { r with headers := r.headers.insert name value }

/-- Set the body with the value of the header that names its media type. -/
def sendAs (x : Exchange) (type : HeaderValue) (body : Bytes) : Exchange :=
  x.amend fun r => { r with headers := r.headers.insert "content-type" type, body := some body }

/-- Set the body with one of the gateway's own media types. -/
def send (x : Exchange) (type : MediaType) (body : Bytes) : Exchange := x.sendAs type.value body

/-- Make the response final. -/
def finish (x : Exchange) : Exchange := { x with ended := true }

/-- End the exchange with a status and a message. -/
def conclude (x : Exchange) (status : Status) (message : String) : Exchange :=
  ((x.setStatus status).send .text (Text.Utf8.encode message)).finish

/-- A response that is final does not change. -/
theorem amend_of_ended {x : Exchange} (h : x.ended = true) (change : Response → Response) :
    x.amend change = x := if_pos h

@[simp] theorem ended_amend (x : Exchange) (change : Response → Response) :
    (x.amend change).ended = x.ended := by
  rw [amend]
  split <;> rfl

@[simp] theorem body_amend (x : Exchange) (change : Response → Response) :
    (x.amend change).body = x.body := by
  rw [amend]
  split <;> rfl

@[simp] theorem request_amend (x : Exchange) (change : Response → Response) :
    (x.amend change).request = x.request := by
  rw [amend]
  split <;> rfl

end Exchange

end DocumentGateway.Http
