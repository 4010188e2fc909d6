import DocumentGateway.Json.Basic
import DocumentGateway.Number.Shortest
import DocumentGateway.Text.Bytes

/-!
# Number literals

Reading and writing JSON numbers. The digits of a literal are gathered into a significand of 64
bits, those that no longer fit only counting as powers of ten; a literal without fraction and
exponent that fits stays an integer, any other is the significand scaled by a power of ten in
binary64 arithmetic. A number is written with the fewest digits that read back, positionally from
`1e-5` up to `1e16` and with an exponent outside.
-/

namespace DocumentGateway.Json

open DocumentGateway.Number (Binary64 Decimal exponentLimit)

/-- The parts of a number literal. -/
structure Literal where
  /-- Whether it begins with a minus sign. -/
  negative : Bool
  /-- The digits before the point. -/
  whole : List Char
  /-- The digits after the point, if there is one. -/
  fraction : Option (List Char)
  /-- The exponent, if there is one. -/
  exponent : Option Int

namespace Literal

/-- Read an exponent: an optional sign and at least one digit. -/
def exponent? : List Char → Option Int
  | '+' :: ds => unsigned? ds
  | '-' :: ds => (unsigned? ds).map (- ·)
  | ds => unsigned? ds
where
  /-- At least one digit and nothing else. -/
  unsigned? (ds : List Char) : Option Int :=
    if !ds.isEmpty && ds.all Char.isDigit then some (Text.cappedValue 10 exponentLimit ds)
    else none

/-- Whether a word begins with a minus sign, and the rest of it. -/
def takeSign : List Char → Bool × List Char
  | '-' :: rest => (true, rest)
  | rest => (false, rest)

/-- Take a point and at least one digit after it, if there is a point. -/
def takeFraction? : List Char → Option (Option (List Char) × List Char)
  | '.' :: rest =>
    let digits := rest.takeWhile Char.isDigit
    if digits.isEmpty then none else some (some digits, rest.dropWhile Char.isDigit)
  | rest => some (none, rest)

/-- The exponent that ends a word, if there is one; nothing else may be left. -/
def takeExponent? : List Char → Option (Option Int)
  | [] => some none
  | c :: ds => if c = 'e' || c = 'E' then (exponent? ds).map some else none

/-- Split a word into the parts of a literal: no leading zero, and a digit or more in each part. -/
def ofWord? (word : List Char) : Option Literal := do
  let (negative, rest) := takeSign word
  let whole := rest.takeWhile Char.isDigit
  guard (!whole.isEmpty && (whole.length == 1 || whole.head? != some '0'))
  let (fraction, rest) ← takeFraction? (rest.dropWhile Char.isDigit)
  let exponent ← takeExponent? rest
  return { negative, whole, fraction, exponent }

/-- A significand of at most 64 bits with the digits it could not take. -/
structure Significand where
  /-- The number that the digits taken spell. -/
  value : Nat
  /-- How many digits were left out. -/
  left : Nat

/-- Append a digit while it fits and nothing has been left out. -/
def Significand.push (s : Significand) (c : Char) : Significand :=
  let next := 10 * s.value + (c.toNat - 0x30)
  if s.left = 0 && next < Nat.pow 2 64 then ⟨next, 0⟩ else ⟨s.value, s.left + 1⟩

/-- The significand of the digits before the point, then of those after it that still fit, with the
power of ten it is to be scaled by. -/
def scaled (l : Literal) : Nat × Int :=
  let whole := l.whole.foldl Significand.push ⟨0, 0⟩
  let fraction := l.fraction.getD []
  let all := fraction.foldl Significand.push ⟨whole.value, 0⟩
  (all.value, (whole.left : Int) - ((fraction.length : Int) - all.left) + l.exponent.getD 0)

/-- The number a literal stands for; none if it is too large for binary64. -/
def number? (l : Literal) : Option Number :=
  let (value, power) := l.scaled
  let real := (Binary64.ofNat? value).bind fun x => (x.scaleByTen? power).map (.real l.negative)
  match l.fraction, l.exponent with
  | none, none =>
    if power ≠ 0 then real
    else if !l.negative then some (.whole value)
    else if 0 < value && value ≤ Nat.pow 2 63 then some (.whole (-value))
    else real
  | _, _ => real

end Literal

/-- The number that a word spells. -/
def Number.ofWord? (word : List Char) : Option Number := (Literal.ofWord? word).bind Literal.number?

/-- A decimal as it is written. -/
def writeDecimal (d : Decimal) : List Char :=
  let digits := Nat.toDigits 10 d.digits
  let point : Int := digits.length + d.exponent
  if d.digits = 0 then ['0', '.', '0']
  else if 0 < point && point ≤ 16 then
    if 0 ≤ d.exponent then digits ++ List.replicate d.exponent.toNat '0' ++ ['.', '0']
    else digits.take point.toNat ++ '.' :: digits.drop point.toNat
  else if -5 < point && point ≤ 0 then
    '0' :: '.' :: (List.replicate (-point).toNat '0' ++ digits)
  else
    let power := point - 1
    let mantissa := match digits with
      | [c] => [c]
      | c :: rest => c :: '.' :: rest
      | [] => []
    mantissa ++ 'e' :: (if power < 0 then '-' else '+') :: Nat.toDigits 10 power.natAbs

/-- A number as it is written. -/
def Number.write : Number → List Char
  | .whole (.ofNat n) => Nat.toDigits 10 n
  | .whole (.negSucc n) => '-' :: Nat.toDigits 10 (n + 1)
  | .real negative x => (if negative then ['-'] else []) ++ writeDecimal x.shortest

end DocumentGateway.Json
