import DocumentGateway.Document.Transform
import DocumentGateway.Flow.Hal
import DocumentGateway.Flow.Program

/-!
# Writing properties

A write replaces the properties of a database, creating it if need be, or lays new ones over those
it has. Requests that cannot be written are answered before the database is asked. After a
successful write the cache forgets the name before the request goes on, so that whoever sees the
write done reads it.
-/

namespace DocumentGateway.Flow

/-- The two ways to write. -/
inductive WriteMode where
  /-- Replace the properties; without content by none. -/
  | replace
  /-- Lay the content over the properties. -/
  | merge
  deriving DecidableEq, Repr

/-- Why a request is not written. -/
inductive Unwritable where
  /-- The database has no name or one that belongs to the gateway. -/
  | name
  /-- There is no content to merge. -/
  | noContent
  /-- There are several documents. -/
  | severalDocuments
  /-- The content defines transforms that are malformed. -/
  | transforms (error : Transform.Malformed)
  deriving DecidableEq, Repr

/-- What is said about a request that is not written. -/
def Unwritable.message : Unwritable → String
  | .name => "db name cannot be empty or start with _"
  | .noContent => "no data provided"
  | .severalDocuments => "data cannot be an array"
  | .transforms error => "wrong representation transform logic definition. " ++ error.message

/-- What is said about a version token that does not fit. -/
def conflictMessage : String :=
  "The database's ETag must be provided using the 'If-Match' header."

/-- Whether a name may be that of a database. -/
def isWritableName (db : String) : Bool :=
  match db.toList with
  | [] => false
  | c :: _ => c != '_'

/-- The document that some content writes. -/
def documentOf : WriteMode → Content → Except Unwritable Document
  | .replace, .absent => .ok []
  | .merge, .absent => .error .noContent
  | _, .single d => .ok d
  | _, .many _ => .error .severalDocuments

/-- The document that a request writes. -/
def writableDocument (mode : WriteMode) (c : Context) : Except Unwritable Document :=
  if !isWritableName c.db then .error .name
  else
    match documentOf mode c.content with
    | .error e => .error e
    | .ok d =>
      match Transform.ofDocument d with
      | .error e => .error (.transforms e)
      | .ok _ => .ok d

/-- The write of a document in the name of a request. -/
def writeOf (mode : WriteMode) (c : Context) (d : Document) : Store.Write where
  content := d
  etag := c.etag
  updating := c.props.isSome
  patching := mode = .merge
  checkEtag := c.etagRequired

/-- Note the outcome of a write, with the version token for the client. -/
def Passage.record (p : Passage) (result : Store.WriteResult) : Passage where
  exchange := setEtag p.exchange result.etag
  context := { p.context with result := some result }

/-- Tell the client that a write succeeded, with the warnings if there are any. -/
def Passage.acknowledge (p : Passage) (status : Http.Status) : Passage where
  exchange :=
    if p.context.warnings.isEmpty then p.exchange.setStatus status
    else sendWarnings p.exchange p.context status
  context := p.context

/-- Go on after the database has answered a write. -/
def afterWrite (next : Stage) (p : Passage) (result : Store.WriteResult) : Program Result :=
  let p := p.record result
  if result.isConflict then p.refuse .conflict conflictMessage
  else if !result.status.isSuccess then
    p.refuse result.status (result.status.reason?.getD "request failed")
  else
    .call (.forget p.context.db) fun _ =>
      (next (p.acknowledge result.status)).bind fun r => .done r.finish

/-- Write what a request brings. -/
def write (mode : WriteMode) (next : Stage) : Stage := fun p =>
  match writableDocument mode p.context with
  | .error e => p.refuse .notAcceptable e.message
  | .ok d =>
    .call (.upsert p.context.db (writeOf mode p.context d)) fun
      | .error e => .done ⟨.error (.database e), p⟩
      | .ok result => afterWrite next p result

end DocumentGateway.Flow
