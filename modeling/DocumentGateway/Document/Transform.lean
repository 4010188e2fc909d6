import DocumentGateway.Document.Content

/-!
# Representation transforms

A properties document may define transforms of the representations sent and received: the key `rts`
holds an array of objects, each with a name, a phase and a scope, and perhaps arguments. The
definitions are read in order and the first fault is reported; within a definition the name is
looked at before the phase and the phase before the scope.
-/

namespace DocumentGateway

namespace Transform

/-- The key of the definitions. -/
def field : String := "rts"

/-- When a transform is applied. -/
inductive Phase where
  | request
  | response
  deriving DecidableEq, Repr

/-- To which resources a transform is applied. -/
inductive Scope where
  | this
  | children
  deriving DecidableEq, Repr

/-- The phase that a word names. -/
def Phase.ofWord? : String → Option Phase
  | "REQUEST" => some .request
  | "RESPONSE" => some .response
  | _ => none

/-- The scope that a word names. -/
def Scope.ofWord? : String → Option Scope
  | "THIS" => some .this
  | "CHILDREN" => some .children
  | _ => none

/-- Why a definition is refused. -/
inductive Malformed where
  /-- The key holds something else than an array. -/
  | notAnArray
  /-- An element is not an object. -/
  | notAnObject (index : Nat)
  /-- A key of an element is missing or holds something else than a string. -/
  | missingField (index : Nat) (field : String)
  /-- A key of an element holds none of the words it may hold. -/
  | invalidValue (index : Nat) (field value allowed : String)
  deriving DecidableEq, Repr

/-- What is said about a refused definition. -/
def Malformed.message : Malformed → String
  | .notAnArray => "element 'rts' is not an array"
  | .notAnObject index => s!"element {index} of 'rts' is not an object"
  | .missingField index field => s!"element {index} of 'rts': '{field}' is missing or not a string"
  | .invalidValue index field value allowed =>
    s!"element {index} of 'rts': invalid {field} '{value}', must be one of {allowed}"

end Transform

/-- One transform definition. -/
structure Transform where
  /-- The name of the transform. -/
  name : String
  /-- When it is applied. -/
  phase : Transform.Phase
  /-- To which resources it is applied. -/
  scope : Transform.Scope
  /-- Its arguments, if the key is present. -/
  args : Option Json.Value
  deriving Repr

namespace Transform

/-- The string under a key of the element with an index. -/
def stringField (index : Nat) (element : Document) (field : String) : Except Malformed String :=
  match element.text? field with
  | some s => .ok s
  | none => .error (.missingField index field)

/-- Read the element with an index. -/
def ofValue (index : Nat) (value : Json.Value) : Except Malformed Transform := do
  let element ← match value with
    | .object fields => .ok fields
    | _ => .error (.notAnObject index)
  let name ← stringField index element "name"
  let word ← stringField index element "phase"
  let phase ← match Phase.ofWord? word with
    | some phase => .ok phase
    | none => .error (.invalidValue index "phase" word "REQUEST, RESPONSE")
  let word ← stringField index element "scope"
  let scope ← match Scope.ofWord? word with
    | some scope => .ok scope
    | none => .error (.invalidValue index "scope" word "THIS, CHILDREN")
  return ⟨name, phase, scope, Keyed.get? element "args"⟩

/-- Read the elements from an index on. -/
def ofValues (index : Nat) : List Json.Value → Except Malformed (List Transform)
  | [] => .ok []
  | value :: rest => do
    let first ← ofValue index value
    let others ← ofValues (index + 1) rest
    return first :: others

/-- The transforms that a properties document defines. -/
def ofDocument (d : Document) : Except Malformed (List Transform) :=
  match d.get? field with
  | none => .ok []
  | some (.array items) => ofValues 0 items
  | some _ => .error .notAnArray

/-- Which transforms a document defines depends on nothing but what is under their key. -/
theorem ofDocument_congr {d d' : Document} (h : d.get? field = d'.get? field) :
    ofDocument d = ofDocument d' := by
  unfold ofDocument
  rw [h]

end Transform

end DocumentGateway
