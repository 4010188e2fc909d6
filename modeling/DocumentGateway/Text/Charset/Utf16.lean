import DocumentGateway.Text.Charset.Decoder

/-!
# UTF-16

Bytes in pairs are 16-bit units, and a high surrogate with a low one after it is one character. A
surrogate by itself is ill-formed, and so is what is left over at the end.
-/

namespace DocumentGateway.Text.Charset.Utf16

/-- Which byte of a unit comes first. -/
inductive Order where
  /-- The less significant one. -/
  | little
  /-- The more significant one. -/
  | big
  deriving DecidableEq, Repr

/-- The unit that two bytes are. -/
def Order.unit : Order → UInt8 → UInt8 → Nat
  | .little, a, b => a.toNat + 256 * b.toNat
  | .big, a, b => 256 * a.toNat + b.toNat

/-- Where a reader stands. -/
structure Scan where
  /-- The first byte of a unit. -/
  half : Option UInt8
  /-- The high surrogate that waits. -/
  high : Option Nat

/-- Read a unit where no surrogate waits. -/
def begin (unit : Nat) : Scan × List Piece :=
  if 0xD800 ≤ unit && unit < 0xDC00 then (⟨none, some unit⟩, [])
  else if 0xDC00 ≤ unit && unit < 0xE000 then (⟨none, none⟩, [none])
  else (⟨none, none⟩, [some (Char.ofNat unit)])

/-- Read a unit. -/
def readUnit : Option Nat → Nat → Scan × List Piece
  | none, unit => begin unit
  | some high, unit =>
    if 0xDC00 ≤ unit && unit < 0xE000 then
      let code := 0x10000 + (high - 0xD800) * 0x400 + (unit - 0xDC00)
      (⟨none, none⟩, [some (Char.ofNat code)])
    else ((begin unit).1, none :: (begin unit).2)

/-- The decoder of an order of bytes. -/
def decoder (order : Order) : Decoder Scan where
  start := ⟨none, none⟩
  step s b :=
    match s.half with
    | none => ({ s with half := some b }, [])
    | some a => readUnit s.high (order.unit a b)
  finish s := if s.half.isSome || s.high.isSome then [none] else []

end DocumentGateway.Text.Charset.Utf16
