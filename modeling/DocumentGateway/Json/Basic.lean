import DocumentGateway.Keyed
import DocumentGateway.Number.Binary64

/-!
# JSON values

A number is an exact integer if it was written as one and fits 64 bits, and a binary64 number
otherwise. An object holds its fields in the order of their names, each name once.
-/

namespace DocumentGateway

namespace Json

/-- A JSON number. -/
inductive Number where
  /-- An integer. -/
  | whole (value : Int)
  /-- A binary64 number, the two zeros being different numbers. -/
  | real (negative : Bool) (magnitude : Number.Binary64)
  deriving DecidableEq, Repr

/-- A JSON value. -/
inductive Value where
  | null
  | bool (b : Bool)
  | number (n : Number)
  | string (s : String)
  | array (items : List Value)
  | object (fields : List (String × Value))
  deriving Repr, Inhabited

namespace Value

/-- The word for the type of a value. -/
def typeName : Value → String
  | .null => "null"
  | .bool _ => "boolean"
  | .number _ => "number"
  | .string _ => "string"
  | .array _ => "array"
  | .object _ => "object"

/-- The text of a string value. -/
def text? : Value → Option String
  | .string s => some s
  | _ => none

/-- A whole number that is not negative. -/
def natural (n : Nat) : Value := .number (.whole n)

end Value

end Json

/-- A JSON object, as the database stores it. -/
abbrev Document := Keyed Json.Value

/-- The text under a key, if it is a string. -/
def Keyed.text? (d : Document) (key : String) : Option String := (d.get? key).bind Json.Value.text?

theorem Keyed.text?_eq_some_iff {d : Document} {key s : String} :
    d.text? key = some s ↔ d.get? key = some (.string s) := by
  rw [Keyed.text?, Option.bind_eq_some_iff]
  constructor
  · rintro ⟨value, hvalue, htext⟩
    cases value <;> cases htext
    exact hvalue
  · exact fun h => ⟨_, h, rfl⟩

theorem Keyed.text?_eq_none_iff {d : Document} {key : String} :
    d.text? key = none ↔ ∀ s, d.get? key ≠ some (.string s) := by
  simp only [Option.eq_none_iff_forall_ne_some, ne_eq, Keyed.text?_eq_some_iff]

/-- A JSON object as a value. -/
def Keyed.toValue (d : Document) : Json.Value := .object d

end DocumentGateway
