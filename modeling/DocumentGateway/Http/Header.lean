import DocumentGateway.Keyed
import DocumentGateway.Text.Utf8

/-!
# Headers

A header's name is a token without regard to case, kept in lower case. Its value is any sequence of
bytes without control characters other than the tab. A value counts as text only if all its bytes
are visible ASCII characters, spaces or tabs. A request may repeat a name; a response holds one
value for each.
-/

namespace DocumentGateway.Http

/-- The name of a header. -/
structure HeaderName where
  /-- The name in lower case. -/
  text : String
  /-- The name is a token in lower case. -/
  isToken : (Text.isToken text && Text.lower text == text) = true := by decide
  deriving DecidableEq

namespace HeaderName

/-- The header name that a text gives, whatever the case of its letters. -/
def ofText? (s : String) : Option HeaderName :=
  if h : (Text.isToken (Text.lower s) && Text.lower (Text.lower s) == Text.lower s) = true then
    some ⟨Text.lower s, h⟩
  else none

end HeaderName

/-- Whether a byte may stand in a header's value. -/
def isValueByte (b : UInt8) : Bool := (0x20 ≤ b && b != 0x7F) || b == 0x09

/-- Whether a byte may stand in a value that counts as text. -/
def isTextByte (b : UInt8) : Bool := (0x20 ≤ b && b < 0x7F) || b == 0x09

/-- The value of a header. -/
structure HeaderValue where
  /-- The bytes of the value. -/
  bytes : Bytes
  /-- Every byte may stand in a value. -/
  legal : bytes.all isValueByte = true := by decide
  deriving DecidableEq

namespace HeaderValue

/-- The value with some bytes, if all may stand in one. -/
def ofBytes? (bytes : Bytes) : Option HeaderValue :=
  if h : bytes.all isValueByte = true then some ⟨bytes, h⟩ else none

/-- The value that a text makes, if all its bytes may stand in one. -/
def ofText? (s : String) : Option HeaderValue := ofBytes? (Text.Utf8.encode s)

/-- The value as text, if it counts as text. -/
def text? (v : HeaderValue) : Option String :=
  if v.bytes.all isTextByte then some (String.ofList (Text.ofCodes v.bytes)) else none

end HeaderValue

/-- A header of a request. -/
structure Header where
  /-- The name. -/
  name : HeaderName
  /-- The value. -/
  value : HeaderValue
  deriving DecidableEq

/-- The headers of a request, in the order they were sent. -/
abbrev Headers := List Header

namespace Headers

/-- All values of a name, in order. -/
def values (headers : Headers) (name : String) : List HeaderValue :=
  (headers.filter fun h => h.name.text = name).map (·.value)

/-- The first value of a name. -/
def first? (headers : Headers) (name : String) : Option HeaderValue := (headers.values name).head?

/-- Whether a name was sent. -/
def has (headers : Headers) (name : String) : Bool := (headers.first? name).isSome

end Headers

end DocumentGateway.Http
