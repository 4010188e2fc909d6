import DocumentGateway.Flow.Admission
import DocumentGateway.Flow.Intake
import DocumentGateway.Flow.Lookup
import DocumentGateway.Flow.Present
import DocumentGateway.Flow.Write

/-!
# The chain of stages

A request is admitted, its content taken in, the properties of its database looked up, and then it
is written or shown. Databases alone can be written and shown; to write the root is to write a
database without a name.
-/

namespace DocumentGateway.Flow

/-- What is done with a request once all about it is known. -/
inductive Task where
  | replace
  | merge
  | present
  deriving DecidableEq, Repr

/-- The task that a method sets for a resource. -/
def Task.of? : Resource → Http.Verb → Option Task
  | .db, .put | .root, .put => some .replace
  | .db, .patch => some .merge
  | .db, .get => some .present
  | _, _ => none

/-- Hand a request to the stage for its task. -/
def dispatch (stages : Task → Stage) : Stage := fun p =>
  match Task.of? p.context.resource p.context.verb with
  | some task => stages task p
  | none => p.refuse .methodNotAllowed "method not allowed"

/-- The stage for a task. -/
def Task.stage : Task → Stage
  | .replace => write .replace Stage.stop
  | .merge => write .merge Stage.stop
  | .present => Flow.present Stage.stop

/-- The stages after admission. -/
def afterAdmission (reading : BodyReading) : Stage := intake reading (lookup (dispatch Task.stage))

/-- All stages. -/
def chain (rules : Access.Rules) (reading : BodyReading) : Stage :=
  admission rules (afterAdmission reading)

end DocumentGateway.Flow
