/-!
# Binary64 magnitudes

A finite binary64 number without its sign, held as `mantissa * 2 ^ exponent`, and its arithmetic.
The result of an operation is the exact result rounded to the nearest number, a half going to the
even mantissa; results past the largest number have no value here. Everything is exact arithmetic on
natural numbers.
-/

namespace DocumentGateway.Number

/-- The power of ten at which the exponents of literals are capped. No literal has so many digits
that a larger exponent would mean anything else. -/
def exponentLimit : Nat := Nat.pow 10 18

/-- The magnitude `mantissa * 2 ^ exponent`. The mantissa is below `2 ^ 53`, and at least `2 ^ 52`
unless the exponent is `-1074`, so that every magnitude has one form. -/
structure Binary64 where
  /-- The significant bits as an integer. -/
  mantissa : Nat
  /-- The power of two that scales them. -/
  exponent : Int
  deriving DecidableEq, Repr, Inhabited

namespace Binary64

/-- The magnitude zero. -/
def zero : Binary64 := ⟨0, -1074⟩

/-- Whether the magnitude is zero. -/
def isZero (x : Binary64) : Bool := x.mantissa == 0

/-- The numerator of the magnitude as a fraction. -/
def numerator (x : Binary64) : Nat := x.mantissa * Nat.pow 2 x.exponent.toNat

/-- The denominator of the magnitude as a fraction. -/
def denominator (x : Binary64) : Nat := Nat.pow 2 (-x.exponent).toNat

/-- The whole part and the remainder of `num / (den * 2 ^ exponent)`, with the divisor used. -/
def scaled (num den : Nat) (exponent : Int) : Nat × Nat × Nat :=
  let n := num * Nat.pow 2 (-exponent).toNat
  let d := den * Nat.pow 2 exponent.toNat
  (n / d, n % d, d)

/-- The exponent at which `num / den` has 53 significant bits, but never below the least one. -/
def exponentFor (num den : Nat) : Int :=
  let guess := max ((num.log2 : Int) - (den.log2 : Int) - 53) (-1074)
  if (scaled num den guess).1 < Nat.pow 2 53 then guess else guess + 1

/-- The whole number nearest to `whole + rest / divisor`, a half going to the even one. -/
def nearest (whole rest divisor : Nat) : Nat :=
  if divisor < 2 * rest || (divisor == 2 * rest && whole % 2 == 1) then whole + 1 else whole

/-- The magnitude of a mantissa, which may have been rounded up to a bit too many. -/
def carried (mantissa : Nat) (exponent : Int) : Binary64 :=
  if mantissa = Nat.pow 2 53 then ⟨Nat.pow 2 52, exponent + 1⟩ else ⟨mantissa, exponent⟩

/-- The magnitude nearest to `num / den`, a half going to the even mantissa; none past the largest.
-/
def ofFraction? (num den : Nat) : Option Binary64 :=
  if num = 0 then some zero else
  let exponent := exponentFor num den
  let (whole, rest, divisor) := scaled num den exponent
  let x := carried (nearest whole rest divisor) exponent
  if 971 < x.exponent then none else some x

/-- The rounded product. -/
def mul? (x y : Binary64) : Option Binary64 :=
  ofFraction? (x.numerator * y.numerator) (x.denominator * y.denominator)

/-- The rounded quotient. -/
def div? (x y : Binary64) : Option Binary64 :=
  ofFraction? (x.numerator * y.denominator) (x.denominator * y.numerator)

/-- The magnitude nearest to a natural number. -/
def ofNat? (n : Nat) : Option Binary64 := ofFraction? n 1

/-- The magnitude nearest to a power of ten up to the 308th. -/
def tenTo? (n : Nat) : Option Binary64 := ofNat? (Nat.pow 10 n)

/-- `x * 10 ^ power`, worked out with powers of ten that are magnitudes themselves: a power below
the least of them is applied in two steps, and what lies below both steps is zero. -/
def scaleByTen? (x : Binary64) (power : Int) : Option Binary64 :=
  if 0 ≤ power then
    if power ≤ 308 then (tenTo? power.toNat).bind x.mul?
    else if x.isZero then some zero else none
  else if -308 ≤ power then (tenTo? (-power).toNat).bind x.div?
  else
    (tenTo? 308).bind fun big => (x.div? big).bind fun y =>
      if -616 ≤ power then (tenTo? (-power - 308).toNat).bind y.div? else some zero

end Binary64

end DocumentGateway.Number
