import DocumentGateway.Document.Identifier
import DocumentGateway.Document.ReservedKey

/-!
# Which identifiers are accepted

An identifier is refused exactly if no path can carry it, and reserved exactly if it is one of five
words in some case of its letters. Among several documents the first fault counts, in either check.
Dropping the keys that belong to the gateway leaves the identifier.
-/

namespace DocumentGateway

namespace Identifier

/-- A hexadecimal digit, in either case of the letters. -/
def IsHexDigit (c : Char) : Prop :=
  ('0' ≤ c ∧ c ≤ '9') ∨ ('A' ≤ c ∧ c ≤ 'F') ∨ ('a' ≤ c ∧ c ≤ 'f')

/-- The identifiers that a path can carry. -/
inductive Addressable : Json.Value → Prop
  | null : Addressable .null
  | bool (b : Bool) : Addressable (.bool b)
  | number (n : Json.Number) : Addressable (.number n)
  | string (s : String) : Addressable (.string s)
  | objectId (s : String) (hlength : s.toList.length = 24)
      (hdigits : ∀ c ∈ s.toList, IsHexDigit c) : Addressable (.object [("$oid", .string s)])
  | date (n : Json.Number) : Addressable (.object [("$date", .number n)])

/-- A text is one of the reserved words, whatever the case of its letters. -/
def Reserved (s : String) : Prop := ∃ word ∈ reserved, Text.lower word = Text.lower s

theorem isSome_hexDigitValue?_iff {c : Char} :
    (Text.hexDigitValue? c).isSome = true ↔ IsHexDigit c := by
  have hdigit : c.isDigit = true ↔ '0' ≤ c ∧ c ≤ '9' := by
    simp only [Char.isDigit, ge_iff_le, Bool.and_eq_true, decide_eq_true_eq]
    exact Iff.rfl
  rw [Text.hexDigitValue?, IsHexDigit, ← hdigit]
  split
  · rename_i h
    simp [h]
  · rename_i h
    split
    · rename_i hupper
      simpa using .inr (.inl (by simpa using hupper))
    · rename_i hupper
      split
      · rename_i hlower
        simpa using .inr (.inr (by simpa using hlower))
      · rename_i hlower
        simp only [Bool.and_eq_true, decide_eq_true_eq] at hupper hlower
        simp [h, hupper, hlower]

theorem isObjectId_iff {s : String} :
    isObjectId s = true ↔ s.toList.length = 24 ∧ ∀ c ∈ s.toList, IsHexDigit c := by
  simp [isObjectId, isSome_hexDigitValue?_iff]

theorem isAddressable_iff {id : Json.Value} : isAddressable id = true ↔ Addressable id := by
  constructor
  · intro h
    unfold isAddressable at h
    split at h
    · exact .null
    · exact .bool _
    · exact .number _
    · exact .string _
    · obtain ⟨hlength, hdigits⟩ := isObjectId_iff.mp h
      exact .objectId _ hlength hdigits
    · exact .date _
    · cases h
  · intro h
    cases h with
    | null | bool | number | string | date => rfl
    | objectId s hlength hdigits => exact isObjectId_iff.mpr ⟨hlength, hdigits⟩

theorem isReserved_iff {s : String} : isReserved s = true ↔ Reserved s := by
  simp [isReserved, Reserved, Text.sameIgnoringCase]

end Identifier

namespace Keyed

variable {d : Document}

/-- A document has no identifier, or one that a path can carry. -/
def Addressed (d : Document) : Prop := ∀ id, d.get? idField = some id → Identifier.Addressable id

/-- The identifier of a document is a reserved word. -/
def NamesReserved (d : Document) (id : String) : Prop :=
  d.get? idField = some (.string id) ∧ Identifier.Reserved id

theorem checkId_of_addressed (h : d.Addressed) : d.checkId = .ok () := by
  rw [checkId]
  split
  · rfl
  · rename_i id hid
    rw [if_pos (Identifier.isAddressable_iff.mpr (h id hid))]

theorem checkId_of_not_addressable {id : Json.Value} (hid : d.get? idField = some id)
    (h : ¬Identifier.Addressable id) : d.checkId = .error ⟨id.typeName⟩ := by
  rw [checkId, hid]
  exact if_neg (h ∘ Identifier.isAddressable_iff.mp)

theorem reservedId?_eq_some_iff {id : String} : d.reservedId? = some id ↔ d.NamesReserved id := by
  rw [reservedId?, Option.filter_eq_some_iff, Identifier.isReserved_iff, NamesReserved, text?,
    Option.bind_eq_some_iff]
  refine and_congr_left fun _ => ⟨?_, fun h => ⟨_, h, rfl⟩⟩
  rintro ⟨value, hvalue, htext⟩
  cases value with
  | string s => exact Option.some.inj htext ▸ hvalue
  | null | bool | number | array | object => cases htext

theorem reservedId?_eq_none_iff : d.reservedId? = none ↔ ∀ id, ¬d.NamesReserved id := by
  simp only [Option.eq_none_iff_forall_ne_some, ne_eq, reservedId?_eq_some_iff]

/-- The identifier is no reserved key. -/
theorem reservedId?_withoutReserved (d : Document) :
    d.withoutReserved.reservedId? = d.reservedId? := by
  rw [reservedId?, reservedId?, text?, text?, withoutReserved, get?_filterKeys]
  rfl

end Keyed

namespace Content

theorem reservedId?_withoutReserved (content : Content) :
    content.withoutReserved.reservedId? = content.reservedId? := by
  cases content with
  | single d =>
    simp [reservedId?, documents, withoutReserved, Keyed.reservedId?_withoutReserved]
  | absent | many => rfl

theorem reservedId?_eq_none_iff {content : Content} :
    content.reservedId? = none ↔ ∀ d ∈ content.documents, ∀ id, ¬d.NamesReserved id := by
  simp only [reservedId?, List.findSome?_eq_none_iff, Keyed.reservedId?_eq_none_iff]

/-- The reserved identifier found is that of the first document that has one. -/
theorem reservedId?_eq_some_iff {content : Content} {id : String} :
    content.reservedId? = some id ↔ ∃ before d after,
      content.documents = before ++ d :: after ∧ d.NamesReserved id ∧
        ∀ earlier ∈ before, ∀ other, ¬earlier.NamesReserved other := by
  simp only [reservedId?, List.findSome?_eq_some_iff, Keyed.reservedId?_eq_some_iff,
    Keyed.reservedId?_eq_none_iff]

end Content

end DocumentGateway
