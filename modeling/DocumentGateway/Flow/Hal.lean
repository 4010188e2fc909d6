import DocumentGateway.Flow.Context
import DocumentGateway.Json.Printer

/-!
# Hypertext bodies

The documents the gateway sends carry a link to the resource they are about, and the warnings if
there are any.
-/

namespace DocumentGateway.Flow

/-- The key of the links. -/
def linksField : String := "_links"

/-- The key of the warnings. -/
def warningsField : String := "_warnings"

/-- The links of a resource with a path. -/
def selfLinks (path : String) : Json.Value :=
  .object [("self", .object [("href", .string path)])]

/-- A path without slashes at its end, the root apart. -/
def linkPath (path : String) : String :=
  match Text.trimEnd (· = '/') path.toList with
  | [] => "/"
  | chars => String.ofList chars

/-- The document that tells a client some warnings. -/
def warningsDocument (path : String) (warnings : List String) : Document :=
  [(linksField, selfLinks (linkPath path)), (warningsField, .array (warnings.map .string))]

/-- The bytes of a document's text. -/
def bodyOf (d : Document) : Bytes := Text.Utf8.encode d.toValue.render

/-- Answer with a status and the warnings. They are a body, so no content becomes plain success. -/
def sendWarnings (x : Http.Exchange) (c : Context) (status : Http.Status) : Http.Exchange :=
  (x.setStatus (if status = .noContent then .ok else status)).send .hal
    (bodyOf (warningsDocument c.path c.warnings))

/-- Set the version token of the response, if it may stand in a header. -/
def setEtag (x : Http.Exchange) (etag : Option String) : Http.Exchange :=
  match etag.bind Http.HeaderValue.ofText? with
  | some value => x.setHeader "etag" value
  | none => x

end DocumentGateway.Flow
