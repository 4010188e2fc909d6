import DocumentGateway.Number.Binary64

/-!
# Shortest decimal digits

The fewest decimal digits that read back as a given magnitude. The decimals with a given number of
digits form a grid, and if any of its points rounds to the magnitude, one of the two neighbours of
the magnitude does; so for one digit, two digits and so on the two neighbours are tried, and of two
that read back the nearer is taken. Where both are equally near, the even one is.
-/

namespace DocumentGateway.Number

/-- The decimal `digits * 10 ^ exponent`. -/
structure Decimal where
  /-- The digits as an integer. -/
  digits : Nat
  /-- The power of ten that scales them. -/
  exponent : Int
  deriving DecidableEq, Repr

namespace Shortest

/-- Whether a magnitude is at least a power of ten. -/
def reaches (x : Binary64) (power : Int) : Bool :=
  x.denominator * Nat.pow 10 power.toNat ≤ x.numerator * Nat.pow 10 (-power).toNat

/-- The power of ten of the leading digit of a magnitude that is not zero. The number of its bits
tells it up to two. -/
def leadingPower (x : Binary64) : Int :=
  let bits := (x.numerator.log2 : Int) - x.denominator.log2
  let least := (bits - 1) * 30103 / 100000 - 1
  if reaches x (least + 2) then least + 2
  else if reaches x (least + 1) then least + 1
  else least

/-- The ends of the interval of reals that round to a magnitude, times four and as numerators over
the magnitude's denominator. Below a power of two the lower neighbour is half as far. -/
def interval (x : Binary64) : Nat × Nat :=
  let unit := Nat.pow 2 x.exponent.toNat
  let below := if x.mantissa = Nat.pow 2 52 && -1074 < x.exponent then 1 else 2
  ((4 * x.mantissa - below) * unit, (4 * x.mantissa + 2) * unit)

/-- Whether a decimal rounds to a magnitude: it lies in the interval, the ends of which belong to
even mantissas. -/
def readsBack (x : Binary64) (d : Decimal) : Bool :=
  let (low, high) := interval x
  let left := 4 * (d.digits * Nat.pow 10 d.exponent.toNat) * x.denominator
  let scale := Nat.pow 10 (-d.exponent).toNat
  if x.mantissa % 2 = 0 then low * scale ≤ left && left ≤ high * scale
  else low * scale < left && left < high * scale

/-- Whether the lower neighbour of `num / den` is to be taken: it is the nearer, or the even one of
two that are equally near. -/
def roundsDown (num den : Nat) : Bool :=
  2 * (num % den) < den || (2 * (num % den) = den && num / den % 2 = 0)

/-- Of the two neighbours of a magnitude on the grid with a given last place, the one that reads
back, or the nearer if both do. -/
def onGrid? (x : Binary64) (place : Int) : Option Decimal :=
  let num := x.numerator * Nat.pow 10 (-place).toNat
  let den := x.denominator * Nat.pow 10 place.toNat
  let floor : Decimal := ⟨num / den, place⟩
  let ceil : Decimal := ⟨num / den + 1, place⟩
  match readsBack x floor, readsBack x ceil with
  | true, true => some (if roundsDown num den then floor else ceil)
  | true, false => some floor
  | false, true => some ceil
  | false, false => none

/-- The first of the given digit counts that reads back, starting at a last place. -/
def search (x : Binary64) : Nat → Int → Decimal
  | 0, place => ⟨x.numerator * Nat.pow 10 (-place).toNat / x.denominator, place⟩
  | budget + 1, place => (onGrid? x place).getD (search x budget (place - 1))

/-- Move trailing zeros of the digits into the power of ten. -/
def stripZeros : Nat → Decimal → Decimal
  | 0, d => d
  | budget + 1, d =>
    if d.digits ≠ 0 && d.digits % 10 = 0 then stripZeros budget ⟨d.digits / 10, d.exponent + 1⟩
    else d

end Shortest

/-- The fewest digits that read back as a magnitude; seventeen always do. -/
def Binary64.shortest (x : Binary64) : Decimal :=
  if x.isZero then ⟨0, 0⟩
  else
    let d := Shortest.search x 17 (Shortest.leadingPower x)
    Shortest.stripZeros 20 d

end DocumentGateway.Number
