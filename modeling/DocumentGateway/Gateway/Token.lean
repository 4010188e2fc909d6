import DocumentGateway.Http.Header
import DocumentGateway.Text.Bytes

/-!
# Random tokens

Version tokens and request identifiers are made of sixteen random bytes in which six bits are fixed,
so that they are random identifiers of the usual form.
-/

namespace DocumentGateway.Gateway

/-- The bytes with the six bits fixed that mark a random identifier. -/
def marked (bytes : Bytes) : Bytes :=
  (bytes.modify 6 fun b => (b &&& 0x0F) ||| 0x40).modify 8 fun b => (b &&& 0x3F) ||| 0x80

/-- The hexadecimal digits of some bytes. -/
def hexDigits (bytes : Bytes) : List Char :=
  bytes.flatMap fun b => [Text.hexDigit (b.toNat / 16), Text.hexDigit (b.toNat % 16)]

/-- The version token that sixteen random bytes make. -/
def versionToken (bytes : Bytes) : String := String.ofList (hexDigits (marked bytes))

/-- The request identifier that sixteen random bytes make: the digits in five groups. -/
def requestToken (bytes : Bytes) : String :=
  let bytes := marked bytes
  let group := fun start count => String.ofList (hexDigits ((bytes.drop start).take count))
  "-".intercalate [group 0 4, group 4 2, group 6 2, group 8 2, group 10 6]

end DocumentGateway.Gateway
