import DocumentGateway.Text.Bytes

/-!
# Base64

The standard alphabet with padding. Every group of four characters stands for three bytes; the last
group may be padded, and then the bits it does not use are zero. So each byte sequence has exactly
one written form, and nothing else is read.
-/

namespace DocumentGateway.Text.Base64

/-- The character for a value below sixty-four. -/
def digit (n : Nat) : Char :=
  if n < 26 then Char.ofNat (0x41 + n)
  else if n < 52 then Char.ofNat (0x61 + (n - 26))
  else if n < 62 then Char.ofNat (0x30 + (n - 52))
  else if n = 62 then '+' else '/'

/-- The value of a character of the alphabet. -/
def value? (c : Char) : Option Nat :=
  if 'A' ≤ c && c ≤ 'Z' then some (c.toNat - 0x41)
  else if 'a' ≤ c && c ≤ 'z' then some (c.toNat - 0x61 + 26)
  else if '0' ≤ c && c ≤ '9' then some (c.toNat - 0x30 + 52)
  else if c = '+' then some 62
  else if c = '/' then some 63
  else none

/-- The written form of some bytes. -/
def encode : Bytes → List Char
  | [] => []
  | [a] => [digit (a.toNat / 4), digit (a.toNat % 4 * 16), '=', '=']
  | [a, b] =>
    [digit (a.toNat / 4), digit (a.toNat % 4 * 16 + b.toNat / 16), digit (b.toNat % 16 * 4), '=']
  | a :: b :: c :: rest =>
    digit (a.toNat / 4) :: digit (a.toNat % 4 * 16 + b.toNat / 16)
      :: digit (b.toNat % 16 * 4 + c.toNat / 64) :: digit (c.toNat % 64) :: encode rest

/-- The bytes of a padded last group, or of a full group that others follow. -/
def decode? : List Char → Option Bytes
  | [] => some []
  | w :: x :: y :: z :: rest =>
    match value? w, value? x, value? y, value? z with
    | some w, some x, some y, some z =>
      (decode? rest).map fun bytes =>
        (w * 4 + x / 16).toUInt8 :: (x % 16 * 16 + y / 4).toUInt8 :: (y % 4 * 64 + z).toUInt8
          :: bytes
    | some w, some x, some y, none =>
      if z = '=' && rest.isEmpty && y % 4 = 0 then
        some [(w * 4 + x / 16).toUInt8, (x % 16 * 16 + y / 4).toUInt8]
      else none
    | some w, some x, none, none =>
      if y = '=' && z = '=' && rest.isEmpty && x % 16 = 0 then some [(w * 4 + x / 16).toUInt8]
      else none
    | _, _, _, _ => none
  | _ => none

end DocumentGateway.Text.Base64
