import DocumentGateway.Flow.Hal
import DocumentGateway.Flow.Program

/-!
# Presenting properties

A database is presented by its properties, sent as they were looked up, with a link to the database.
-/

namespace DocumentGateway.Flow

/-- The document that shows the properties of the database at a path. -/
def shownDocument (path : String) (props : Document) : Document :=
  props.insert linksField (selfLinks path)

/-- The exchange in which properties are shown. -/
def showProps (x : Http.Exchange) (path : String) (props : Document) : Http.Exchange :=
  ((setEtag x (props.text? etagField)).setStatus .ok).send .hal (bodyOf (shownDocument path props))

/-- Show the properties of the database that a request names. -/
def present (next : Stage) : Stage := fun p =>
  match p.context.props with
  | none => p.refuse .notFound "db does not exist"
  | some props =>
    (next { p with exchange := showProps p.exchange p.context.path props }).bind fun r =>
      .done r.finish

end DocumentGateway.Flow
