import DocumentGateway.Text.Bytes

/-!
# Decoders

A decoder reads bytes one at a time and gives pieces: characters, and ill-formed pieces, for each of
which a text has the replacement character. Charsets whose characters have one or two bytes share a
decoder: where a lead byte and the byte after it are no character, they are one ill-formed piece,
except that an ASCII byte there stands for itself.
-/

namespace DocumentGateway.Text.Charset

/-- A piece of decoded text; `none` is an ill-formed one. -/
abbrev Piece := Option Char

/-- The character that a byte is in ASCII. -/
def asciiChar (b : UInt8) : Char := Char.ofNat b.toNat

/-- Reads bytes one at a time. -/
structure Decoder (σ : Type) where
  /-- Where it stands before the first byte. -/
  start : σ
  /-- Where it stands after a byte, and the pieces that the byte completes. -/
  step : σ → UInt8 → σ × List Piece
  /-- The pieces that the end completes. -/
  finish : σ → List Piece

namespace Decoder

variable {σ : Type}

/-- The pieces of some bytes. -/
def pieces (d : Decoder σ) (bytes : Bytes) : List Piece :=
  let (s, read) := bytes.foldl
    (fun (s, read) b => ((d.step s b).1, (d.step s b).2.reverse ++ read)) (d.start, [])
  ((d.finish s).reverse ++ read).reverse

/-- The text of some bytes. -/
def decode (d : Decoder σ) (bytes : Bytes) : String :=
  String.ofList ((d.pieces bytes).map (·.getD '\uFFFD'))

end Decoder

/-- The decoder of a charset in which every byte is a piece. -/
def bytewise (char? : UInt8 → Piece) : Decoder Unit where
  start := ()
  step _ b := ((), [char? b])
  finish _ := []

/-- A charset whose characters have one or two bytes. -/
structure Pairs where
  /-- The character that a byte is by itself. -/
  single : UInt8 → Option Char
  /-- Whether a byte begins a pair. -/
  isLead : UInt8 → Bool
  /-- The text that a pair is. -/
  pair : UInt8 → UInt8 → Option (List Char)

namespace Pairs

/-- Read a byte where no pair has begun. -/
def begin (p : Pairs) (b : UInt8) : Option UInt8 × List Piece :=
  match p.single b with
  | some c => (none, [some c])
  | none => if p.isLead b then (some b, []) else (none, [none])

/-- Read a byte. -/
def step (p : Pairs) : Option UInt8 → UInt8 → Option UInt8 × List Piece
  | none, b => p.begin b
  | some lead, b =>
    match p.pair lead b with
    | some chars => (none, chars.map some)
    | none => (none, if b < 0x80 then [none, some (asciiChar b)] else [none])

/-- The decoder of the charset. -/
def decoder (p : Pairs) : Decoder (Option UInt8) where
  start := none
  step := p.step
  finish
    | none => []
    | some _ => [none]

end Pairs

end DocumentGateway.Text.Charset
