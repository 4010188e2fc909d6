import DocumentGateway.Document.Identifier
import DocumentGateway.Http.Status

/-!
# Refused bodies

Why the body of a request is not accepted, with the status and the message of the answer.
-/

namespace DocumentGateway

/-- Why a body is refused. -/
inductive BodyError where
  /-- No content type is that of a JSON document. -/
  | unsupportedJsonContentType
  /-- No content type is that of a form. -/
  | unsupportedFormContentType
  /-- The content type does not tell how to read a multipart form. -/
  | noFormParser
  /-- A form breaks off or is out of order. -/
  | unreadableForm
  /-- The properties of an upload are not a JSON object. -/
  | invalidProperties
  /-- An upload has no file. -/
  | missingFile
  /-- The body is too long or breaks off. -/
  | unreadableBody
  /-- The body is not the JSON text of an object or an array. -/
  | invalidJson
  /-- An element of an array is not an object. -/
  | notAnObject
  /-- An identifier has a type that cannot be addressed. -/
  | unsupportedId (error : Identifier.Unsupported)
  /-- An identifier is a reserved word. -/
  | reservedId (id : String)
  /-- The file could not be stored. -/
  | storage (reason : String)
  deriving DecidableEq, Repr

namespace BodyError

/-- The status of the answer. -/
def status : BodyError → Http.Status
  | .unsupportedJsonContentType | .unsupportedFormContentType => .unsupportedMediaType
  | .unreadableBody => .payloadTooLarge
  | .storage _ => .internalServerError
  | _ => .notAcceptable

/-- The message of the answer. -/
def message : BodyError → String
  | .unsupportedJsonContentType =>
    "Content-Type must be either: application/hal+json or application/json"
  | .unsupportedFormContentType =>
    "Content-Type must be either: application/x-www-form-urlencoded or multipart/form-data"
  | .noFormParser => "There is no form parser registered for the request content type"
  | .unreadableForm => "Error parsing the multipart form: data could not be read"
  | .invalidProperties => "Invalid data: 'properties' field is not a valid JSON"
  | .missingFile => "This request does not contain any binary file"
  | .unreadableBody => "request body is too large or could not be read"
  | .invalidJson => "Invalid JSON"
  | .notAnObject => "the content must be either an object or an array of objects"
  | .unsupportedId error => error.message
  | .reservedId id => "id is reserved: " ++ id
  | .storage reason => "failed to store uploaded file: " ++ reason

end BodyError

end DocumentGateway
