import DocumentGateway.Text.Cut
import DocumentGateway.Text.Percent
import DocumentGateway.Text.Utf8

/-!
# Url-encoded pairs

The format of query strings and of simple forms: pieces between ampersands, empty ones skipped, each
a name and a value around the first equals sign. A plus sign is a space, bad escapes stand for
themselves, and ill-formed text is replaced.
-/

namespace DocumentGateway.Http.Form

/-- The text that an encoded name or value stands for. -/
def decodeText (bytes : Bytes) : String :=
  Text.Utf8.decodeLossy (Text.Percent.decode (bytes.map fun b => if b = 0x2B then 0x20 else b))

/-- The name and the value of a piece. -/
def pair (piece : Bytes) : String × String :=
  match Text.splitFirst (· == 0x3D) piece with
  | some (name, value) => (decodeText name, decodeText value)
  | none => (decodeText piece, "")

/-- The pieces between ampersands that are not empty. -/
def pieces (bytes : Bytes) : List Bytes :=
  (Text.splitAll (· == 0x26) bytes).filter fun piece => !piece.isEmpty

/-- The names and values, in order. -/
def pairs (bytes : Bytes) : List (String × String) := (pieces bytes).map pair

/-- The value of the first pair with a name. -/
def value? (bytes : Bytes) (name : String) : Option String := (pairs bytes).lookup name

end DocumentGateway.Http.Form
