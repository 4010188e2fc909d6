import DocumentGateway.Document.Content
import DocumentGateway.Http.Status

/-!
# The database

One properties document for each database name, with a version token in it that every write renews.
The token a client sends is compared and the write applied in one step: a token that differs from
the stored one is a conflict, and so is a missing one if it is required.
-/

namespace DocumentGateway.Store

/-- What is written to a database, and under which condition. -/
structure Write where
  /-- The new properties. -/
  content : Document
  /-- The version token that the client sent. -/
  etag : Option String
  /-- Whether the writer has seen properties. -/
  updating : Bool
  /-- Whether the properties are laid over the stored ones, or replace them. -/
  patching : Bool
  /-- Whether a missing token is a conflict. -/
  checkEtag : Bool
  deriving Repr

/-- The outcome of a write. -/
structure WriteResult where
  /-- What became of the write. -/
  status : Http.Status
  /-- The version token afterwards, as far as there is one. -/
  etag : Option String
  deriving DecidableEq

/-- Whether the write was refused for its version token. -/
def WriteResult.isConflict (r : WriteResult) : Bool := r.status = .conflict

/-- A backend that could not answer. -/
inductive DatabaseError where
  /-- The backend did not answer, for a reason. -/
  | unavailable (reason : String)
  deriving DecidableEq, Repr

/-- What is said about a backend that could not answer. -/
def DatabaseError.message : DatabaseError → String
  | .unavailable reason => "backend unavailable: " ++ reason

/-- The database in memory. -/
abbrev Database := Keyed Document

namespace Database

/-- Whether a write meets a version it was not meant for. -/
def isStale (sent stored : Option String) (required : Bool) : Bool :=
  match sent, stored with
  | some sent, some stored => sent ≠ stored
  | none, some _ => required
  | _, none => false

/-- The document that a write stores under a new version token, without an identifier. -/
def stamped (content : Document) (fresh : String) : Document :=
  (content.erase idField).insert etagField (.string fresh)

/-- Write to a database; a write that succeeds stores the fresh version token. -/
def upsert (databases : Database) (db : String) (w : Write) (fresh : String) :
    WriteResult × Database :=
  if w.patching && !w.updating then (⟨.notFound, none⟩, databases)
  else
    let content := stamped w.content fresh
    match Keyed.get? databases db with
    | none =>
      if w.patching then (⟨.notFound, none⟩, databases)
      else (⟨.created, some fresh⟩, Keyed.insert databases db content)
    | some stored =>
      if isStale w.etag (stored.text? etagField) w.checkEtag then
        (⟨.conflict, stored.text? etagField⟩, databases)
      else
        let content := if w.patching then Keyed.overlay stored content else content
        (⟨.noContent, some fresh⟩, Keyed.insert databases db content)

end Database

end DocumentGateway.Store
