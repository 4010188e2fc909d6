import DocumentGateway.Document.Content

/-!
# Reserved keys

Keys that begin with an underscore belong to the gateway. A client's document loses them before it
is stored, except for its identifier, and the client is warned of each.
-/

namespace DocumentGateway

/-- Whether a key belongs to the gateway and is not the identifier's. -/
def isReservedKey (key : String) : Bool := key.toList.head? == some '_' && key != idField

/-- The reserved keys of a document, in order. -/
def Keyed.reservedKeys (d : Document) : List String := d.keys.filter isReservedKey

/-- A document without its reserved keys. -/
def Keyed.withoutReserved (d : Document) : Document := d.filterKeys fun key => !isReservedKey key

/-- What the client is told about a reserved key. -/
def reservedKeyWarning (key : String) : String :=
  s!"Reserved field {key} was filtered out from the request"

/-- What the client is told about the reserved keys of a document. -/
def Keyed.reservedKeyWarnings (d : Document) : List String := d.reservedKeys.map reservedKeyWarning

/-- The content without the reserved keys of its document; those of several documents stay. -/
def Content.withoutReserved : Content → Content
  | .single d => .single d.withoutReserved
  | content => content

/-- What the client is told about the reserved keys of some content. -/
def Content.reservedKeyWarnings : Content → List String
  | .single d => d.reservedKeyWarnings
  | _ => []

/-- A reserved key begins with an underscore and is not the identifier's. -/
theorem isReservedKey_iff {key : String} :
    isReservedKey key = true ↔ key.toList.head? = some '_' ∧ key ≠ idField := by
  simp [isReservedKey]

/-- Under a reserved key nothing is left, and under any other key what was there. -/
theorem Keyed.get?_withoutReserved (d : Document) (key : String) :
    d.withoutReserved.get? key =
      if key.toList.head? = some '_' ∧ key ≠ idField then none else d.get? key := by
  rw [withoutReserved, get?_filterKeys]
  by_cases h : isReservedKey key = true
  · rw [if_pos (isReservedKey_iff.mp h)]
    simp [h]
  · rw [if_neg (mt isReservedKey_iff.mpr h)]
    simp [h]

end DocumentGateway
