import DocumentGateway.Json.Basic

/-!
# Outlines of settings

What settings are read from, in whatever text they are written: sections with named entries, lists
and single settings. Where a section is expected, a list gives its entries in their fixed order.
-/

namespace DocumentGateway.Settings

/-- An outline of settings. -/
inductive Outline where
  | text (s : String)
  | whole (n : Int)
  | flag (b : Bool)
  | nothing
  | list (items : List Outline)
  | branch (entries : List (String × Outline))
  /-- A value of a kind that no setting has. -/
  | other
  deriving Repr

/-- The conventions of the text an outline was written in. -/
structure Convention where
  /-- Whether a list that gives the entries of a section may have further items. -/
  allowsSurplus : Bool
  /-- Whether an outline says nothing beyond that it is there. -/
  isVoid : Outline → Bool

namespace Outline

mutual

/-- The outline of a JSON value. -/
def ofJson : Json.Value → Outline
  | .null => nothing
  | .bool b => flag b
  | .number (.whole n) => whole n
  | .number (.real _ _) => other
  | .string s => text s
  | .array items => list (ofJsonItems items)
  | .object fields => branch (ofJsonFields fields)

/-- The outlines of some JSON values. -/
def ofJsonItems : List Json.Value → List Outline
  | [] => []
  | value :: rest => ofJson value :: ofJsonItems rest

/-- The outlines of some fields. -/
def ofJsonFields : List (String × Json.Value) → List (String × Outline)
  | [] => []
  | (key, value) :: rest => (key, ofJson value) :: ofJsonFields rest

end

/-- A text. -/
def text? : Outline → Option String
  | text s => some s
  | _ => none

/-- A flag. -/
def flag? : Outline → Option Bool
  | flag b => some b
  | _ => none

/-- A whole number that is not negative and fits 64 bits. -/
def natural? : Outline → Option Nat
  | whole (.ofNat n) => if n < Nat.pow 2 64 then some n else none
  | _ => none

/-- A list of things that each item gives. -/
def list? {α : Type} (item? : Outline → Option α) : Outline → Option (List α)
  | list items => items.mapM item?
  | _ => none

/-- One of some words, alone or as the only entry of a section that says nothing more. -/
def word? (conv : Convention) : Outline → Option String
  | text s => some s
  | branch [(key, value)] => if conv.isVoid value then some key else none
  | _ => none

/-- The entries of a section whose names are `names`, by name. -/
def entries? (conv : Convention) (names : List String) : Outline → Option (Keyed Outline)
  | branch entries => some entries
  | list items =>
    if items.length ≤ names.length || conv.allowsSurplus then some (names.zip items) else none
  | _ => none

end Outline

/-- The convention of JSON. -/
def jsonConvention : Convention where
  allowsSurplus := false
  isVoid
    | .nothing => true
    | _ => false

/-- An entry that may be missing, for a default. -/
def entry {α : Type} (entries : Keyed Outline) (name : String) (read? : Outline → Option α)
    (absent : α) : Option α :=
  match entries.get? name with
  | none => some absent
  | some outline => read? outline

/-- An entry that may not be missing. -/
def requiredEntry {α : Type} (entries : Keyed Outline) (name : String)
    (read? : Outline → Option α) : Option α := (entries.get? name).bind read?

end DocumentGateway.Settings
