import DocumentGateway.Flow.Program

/-!
# Looking up properties

The current properties of the database named come from the cache, or else from the database itself.
What is read there is stored in the cache under the generation from before the read.
-/

namespace DocumentGateway.Flow

/-- Read the properties of a database past the cache, and let the cache have them. -/
def loadProps (db : String) : Program (Except Store.DatabaseError (Option Document)) :=
  .call (.generation db) fun (generation : Nat) =>
    .call (.load db) fun
      | .ok (some props) => .call (.remember db generation props) fun _ => .done (.ok (some props))
      | answer => .done answer

/-- The properties of a database. -/
def currentProps (db : String) : Program (Except Store.DatabaseError (Option Document)) :=
  .call (.cached db) fun
    | some props => .done (.ok (some props))
    | none => loadProps db

/-- Let requests go on with the properties of the database they name. -/
def lookup (next : Stage) : Stage := fun p =>
  if p.context.db.isEmpty then next p
  else
    (currentProps p.context.db).bind fun
      | .error e => .done ⟨.error (.database e), p⟩
      | .ok props => next { p with context := { p.context with props := props } }

end DocumentGateway.Flow
