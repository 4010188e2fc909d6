import DocumentGateway.Text.Bytes

/-!
# Percent escapes

An escape is a percent sign with two hexadecimal digits and stands for the byte they spell. A
percent sign that begins no escape stands for itself. Writing escapes every byte outside the
unreserved set.
-/

namespace DocumentGateway.Text.Percent

/-- Undo the escapes in what is left; `done` holds, last first, the bytes already read. -/
def decodeOnto (done : Bytes) : Bytes → Bytes
  | [] => done.reverse
  | [b] => (b :: done).reverse
  | [b, c] => (c :: b :: done).reverse
  | b :: c :: d :: rest =>
    if b = 0x25 then
      match hexValue? c, hexValue? d with
      | some high, some low => decodeOnto ((16 * high + low).toUInt8 :: done) rest
      | _, _ => decodeOnto (b :: done) (c :: d :: rest)
    else decodeOnto (b :: done) (c :: d :: rest)

/-- The bytes that some bytes with escapes stand for. -/
def decode (bytes : Bytes) : Bytes := decodeOnto [] bytes

/-- Letters, digits, hyphen, point, underscore and tilde, which are never escaped. -/
def isUnreserved (b : UInt8) : Bool :=
  (0x30 ≤ b && b ≤ 0x39) || (0x41 ≤ b && b ≤ 0x5A) || (0x61 ≤ b && b ≤ 0x7A)
    || b == 0x2D || b == 0x2E || b == 0x5F || b == 0x7E

/-- One byte as it is written. -/
def encodeByte (b : UInt8) : Bytes :=
  if isUnreserved b then [b]
  else [0x25, hexDigitUpper (b.toNat / 16), hexDigitUpper (b.toNat % 16)]

/-- Escape every byte outside the unreserved set. -/
def encode (bytes : Bytes) : Bytes := bytes.flatMap encodeByte

end DocumentGateway.Text.Percent
