import DocumentGateway.Document.Content
import DocumentGateway.Text.Bytes

/-!
# Identifiers

An identifier ends up as a segment of a path, so only null, booleans, numbers and strings may be
one, and the two extended forms: an object with the one key `$oid` and 24 hexadecimal digits, or
with the one key `$date` and a number. Five words address special keys of a collection and are
reserved, whatever the case of their letters.
-/

namespace DocumentGateway

namespace Identifier

/-- Whether a text is 24 hexadecimal digits. -/
def isObjectId (s : String) : Bool :=
  s.toList.length == 24 && s.toList.all fun c => (Text.hexDigitValue? c).isSome

/-- Whether an identifier can be addressed by a path. -/
def isAddressable : Json.Value → Bool
  | .null | .bool _ | .number _ | .string _ => true
  | .object [("$oid", .string s)] => isObjectId s
  | .object [("$date", .number _)] => true
  | _ => false

/-- The words that address special keys. -/
def reserved : List String := ["_MinKey", "_MaxKey", "_null", "_true", "_false"]

/-- Whether a text is one of the reserved words. -/
def isReserved (s : String) : Bool := reserved.any (Text.sameIgnoringCase · s)

/-- An identifier of a type that no path can carry. -/
structure Unsupported where
  /-- The word for its type. -/
  typeName : String
  deriving DecidableEq, Repr

/-- What is said about an unsupported identifier. -/
def Unsupported.message (e : Unsupported) : String :=
  "the type of _id in content body is not supported: " ++ e.typeName

end Identifier

/-- Check the identifier of a document, if it has one. -/
def Keyed.checkId (d : Document) : Except Identifier.Unsupported Unit :=
  match d.get? idField with
  | none => .ok ()
  | some id => if Identifier.isAddressable id then .ok () else .error ⟨id.typeName⟩

/-- The identifier of a document, if it is a reserved word. -/
def Keyed.reservedId? (d : Document) : Option String :=
  (d.text? idField).filter Identifier.isReserved

/-- The first reserved identifier among the documents of some content. -/
def Content.reservedId? (c : Content) : Option String := c.documents.findSome? Keyed.reservedId?

end DocumentGateway
