import DocumentGateway.Access.Identity
import DocumentGateway.Flow.Address
import DocumentGateway.Http.Exchange
import DocumentGateway.Store.Database

/-!
# Contexts

What the stages of the gateway know about a request besides the exchange: what it addresses, the
content it brings, the version it was made for and what has been found out on the way.
-/

namespace DocumentGateway

/-- When a write has to carry the version token. -/
inductive EtagPolicy where
  /-- For every write. -/
  | required
  /-- For deletions. -/
  | requiredForDelete
  /-- For no write, unless the request asks for it. -/
  | optional
  deriving DecidableEq, Repr

namespace Flow

/-- The query parameter that asks for the version token to be checked. -/
def checkEtagParam : String := "checkEtag"

/-- What is known about a request. -/
structure Context where
  /-- The method. -/
  verb : Http.Verb
  /-- What the path addresses. -/
  resource : Resource
  /-- The unescaped path. -/
  path : String
  /-- The database named, empty at the root. -/
  db : String
  /-- The collection named. -/
  collection : Option String
  /-- The document named. -/
  documentId : Option String
  /-- The content of the request, once it has been read. -/
  content : Content
  /-- The bytes of an uploaded file. -/
  file : Option Bytes
  /-- The version token that the client sent. -/
  etag : Option String
  /-- Whether a missing version token is a conflict. -/
  etagRequired : Bool
  /-- The properties of the database, if it is known to exist. -/
  props : Option Document
  /-- The outcome of a write. -/
  result : Option Store.WriteResult
  /-- Who makes the request. -/
  account : Option Access.Account
  /-- What the client is to be warned about. -/
  warnings : List String

namespace Context

/-- The version token in an `If-Match` value: blanks around it and quotes around that do not belong
to it, and an empty token is none. -/
def etagOfText? (value : String) : Option String :=
  let trimmed := Text.trim (· = '"') (Text.trim (fun c => c = ' ' || c = '\t') value.toList)
  if trimmed.isEmpty then none else some (String.ofList trimmed)

/-- The version token that the headers carry, if the first value counts as text. -/
def etagOfHeaders? (headers : Http.Headers) : Option String :=
  ((headers.first? "if-match").bind Http.HeaderValue.text?).bind etagOfText?

/-- Whether a missing version token is a conflict. -/
def requiresEtag (policy : EtagPolicy) (x : Http.Exchange) : Bool :=
  (match policy with
    | .required => true
    | .requiredForDelete => x.request.method.verb = .delete
    | .optional => false)
  || x.hasParam checkEtagParam

/-- What the request of an exchange says by itself. -/
def ofExchange (x : Http.Exchange) (policy : EtagPolicy) : Context :=
  let segments := segments x.request.uri.path
  { verb := x.request.method.verb
    resource := .ofSegments segments
    path := joinPath segments
    db := segments.head?.getD ""
    collection := segments[1]?
    documentId := segments[2]?
    content := .absent
    file := none
    etag := etagOfHeaders? x.request.headers
    etagRequired := requiresEtag policy x
    props := none
    result := none
    account := none
    warnings := [] }

/-- Add a warning. -/
def warn (c : Context) (warning : String) : Context :=
  { c with warnings := c.warnings ++ [warning] }

end Context

end Flow

end DocumentGateway
