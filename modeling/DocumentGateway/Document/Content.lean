import DocumentGateway.Json.Basic

/-!
# Request content

What a request brings to be stored: nothing, one document or several. A value that is not an object
is never content.
-/

namespace DocumentGateway

/-- The key of a document's identifier. -/
def idField : String := "_id"

/-- The key of the version token that is stored with a document. -/
def etagField : String := "_etag"

/-- The content of a request. -/
inductive Content where
  /-- Nothing was sent. -/
  | absent
  /-- One document. -/
  | single (document : Document)
  /-- Several documents, in order. -/
  | many (documents : List Document)
  deriving Inhabited

namespace Content

/-- The documents, in order. -/
def documents : Content → List Document
  | .absent => []
  | .single d => [d]
  | .many ds => ds

/-- The fields of a value, if it is an object. -/
def object? : Json.Value → Option Document
  | .object fields => some fields
  | _ => none

end Content

end DocumentGateway
