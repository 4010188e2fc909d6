/-!
# Bytes and ASCII characters

Raw text is a list of bytes. The character classes here are those of ASCII alone, as the protocols
that use them define them.
-/

namespace DocumentGateway

/-- Raw bytes, as they arrive and leave. -/
abbrev Bytes := List UInt8

namespace Text

/-- What holds of every code below 256 holds of every byte. -/
theorem forall_byte {P : UInt8 → Prop} (h : ∀ n < 256, P (UInt8.ofNat n)) (b : UInt8) : P b := by
  have hb := h b.toNat b.toNat_lt
  rwa [UInt8.ofNat_toNat] at hb

/-- Space, tab, line feed, form feed and carriage return. -/
def isSpaceByte (b : UInt8) : Bool :=
  b == 0x20 || b == 0x09 || b == 0x0A || b == 0x0C || b == 0x0D

/-- Space and tab, which may stand around a header's value. -/
def isBlankByte (b : UInt8) : Bool := b == 0x20 || b == 0x09

/-- The ASCII lower-case form of a byte. -/
def lowerByte (b : UInt8) : UInt8 := if 0x41 ≤ b && b ≤ 0x5A then b + 0x20 else b

/-- The value of a hexadecimal digit. -/
def hexValue? (b : UInt8) : Option Nat :=
  if 0x30 ≤ b && b ≤ 0x39 then some (b.toNat - 0x30)
  else if 0x41 ≤ b && b ≤ 0x46 then some (b.toNat - 0x37)
  else if 0x61 ≤ b && b ≤ 0x66 then some (b.toNat - 0x57)
  else none

/-- The hexadecimal digit of a value below sixteen, letters in lower case. -/
def hexDigit (n : Nat) : Char := if n < 10 then Char.ofNat (0x30 + n) else Char.ofNat (0x57 + n)

/-- The hexadecimal digit of a value below sixteen, letters in upper case. -/
def hexDigitUpper (n : Nat) : UInt8 := if n < 10 then (0x30 + n).toUInt8 else (0x37 + n).toUInt8

/-- The value of a hexadecimal digit. -/
def hexDigitValue? (c : Char) : Option Nat :=
  if c.isDigit then some (c.toNat - 0x30)
  else if 'A' ≤ c && c ≤ 'F' then some (c.toNat - 0x37)
  else if 'a' ≤ c && c ≤ 'f' then some (c.toNat - 0x57)
  else none

/-- The number that some digits spell in a base, read after `start`. -/
def digitsValue (base start : Nat) (digits : List Char) : Nat :=
  digits.foldl (fun n c => n * base + (hexDigitValue? c).getD 0) start

/-- The number that some digits spell in a base, or a limit that it is above. No number on the way
is much longer than the limit. -/
def cappedValue (base limit : Nat) (digits : List Char) : Nat :=
  digits.foldl (fun n c => min limit (n * base + (hexDigitValue? c).getD 0)) 0

private theorem foldl_min_eq {base : Nat} (hb : 0 < base) (limit : Nat) (value : Char → Nat)
    (digits : List Char) (n : Nat) :
    digits.foldl (fun n c => min limit (n * base + value c)) (min limit n) =
      min limit (digits.foldl (fun n c => n * base + value c) n) := by
  induction digits generalizing n with
  | nil => rfl
  | cons c rest ih =>
    have h : min limit (min limit n * base + value c) = min limit (n * base + value c) := by
      rcases Nat.le_total n limit with hn | hn
      · rw [Nat.min_eq_right hn]
      · have : limit ≤ limit * base := Nat.le_mul_of_pos_right _ hb
        have : limit * base ≤ n * base := Nat.mul_le_mul_right _ hn
        rw [Nat.min_eq_left hn]
        omega
    simp only [List.foldl_cons, h, ih]

/-- Only numbers above the limit are changed. -/
theorem cappedValue_eq {base : Nat} (hb : 0 < base) (limit : Nat) (digits : List Char) :
    cappedValue base limit digits = min limit (digitsValue base 0 digits) := by
  have h := foldl_min_eq hb limit (fun c => (hexDigitValue? c).getD 0) digits 0
  simpa [cappedValue, digitsValue] using h

/-- The characters of a protocol token: letters, digits and fifteen marks. -/
def isTokenChar (c : Char) : Bool :=
  c.isAlphanum || "!#$%&'*+-.^_`|~".toList.contains c

/-- A non-empty run of token characters. -/
def isToken (s : String) : Bool := !s.toList.isEmpty && s.toList.all isTokenChar

/-- The text in ASCII lower case. -/
def lower (s : String) : String := String.ofList (s.toList.map Char.toLower)

/-- Equality that takes the two cases of an ASCII letter for one. -/
def sameIgnoringCase (a b : String) : Bool := lower a == lower b

/-- The characters with the codes of some bytes. -/
def ofCodes (bytes : Bytes) : List Char := bytes.map fun b => Char.ofNat b.toNat

end Text

end DocumentGateway
