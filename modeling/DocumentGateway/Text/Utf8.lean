import DocumentGateway.Text.Bytes

/-!
# UTF-8

Bytes are read one at a time. A lead byte says how many continuation bytes its character owes and in
which range the first of them lies, so that overlong forms, surrogates and codes past the last plane
never begin. A byte that does not fit ends the character begun, which counts as one ill-formed
piece, and is then read as a lead byte itself. `decode?` accepts text without ill-formed pieces and
`decodeLossy` puts the replacement character for each of them.
-/

namespace DocumentGateway.Text.Utf8

/-- The bytes of a text. -/
def encode (s : String) : Bytes := s.toList.flatMap String.utf8EncodeChar

/-- A character whose lead byte has been read. -/
structure Begun where
  /-- How many continuation bytes are still owed. -/
  owed : Nat
  /-- The code bits read so far. -/
  bits : Nat
  /-- The least byte that may follow. -/
  least : UInt8
  /-- The greatest byte that may follow. -/
  most : UInt8

/-- What a lead byte begins: a whole character, a longer one, or nothing well-formed. -/
inductive Lead where
  | whole (c : Char)
  | begun (b : Begun)
  | broken

/-- Classify a lead byte. -/
def lead (b : UInt8) : Lead :=
  if b < 0x80 then .whole (Char.ofNat b.toNat)
  else if b < 0xC2 then .broken
  else if b < 0xE0 then .begun ⟨1, b.toNat - 0xC0, 0x80, 0xBF⟩
  else if b = 0xE0 then .begun ⟨2, 0, 0xA0, 0xBF⟩
  else if b = 0xED then .begun ⟨2, 0xD, 0x80, 0x9F⟩
  else if b < 0xF0 then .begun ⟨2, b.toNat - 0xE0, 0x80, 0xBF⟩
  else if b = 0xF0 then .begun ⟨3, 0, 0x90, 0xBF⟩
  else if b < 0xF4 then .begun ⟨3, b.toNat - 0xF0, 0x80, 0xBF⟩
  else if b = 0xF4 then .begun ⟨3, 4, 0x80, 0x8F⟩
  else .broken

/-- Where a reader stands. -/
structure Scan where
  /-- The character begun, if the last one is not complete. -/
  begun : Option Begun
  /-- The pieces read, last first; `none` is an ill-formed one. -/
  pieces : List (Option Char)

namespace Scan

/-- Read a byte at the start of a character. -/
def begin (s : Scan) (b : UInt8) : Scan :=
  match lead b with
  | .whole c => ⟨none, some c :: s.pieces⟩
  | .begun g => ⟨some g, s.pieces⟩
  | .broken => ⟨none, none :: s.pieces⟩

/-- Read a byte. -/
def step (s : Scan) (b : UInt8) : Scan :=
  match s.begun with
  | none => s.begin b
  | some g =>
    if g.least ≤ b && b ≤ g.most then
      let bits := g.bits * 64 + (b.toNat - 0x80)
      if g.owed ≤ 1 then ⟨none, some (Char.ofNat bits) :: s.pieces⟩
      else ⟨some ⟨g.owed - 1, bits, 0x80, 0xBF⟩, s.pieces⟩
    else begin ⟨none, none :: s.pieces⟩ b

/-- The pieces in order, a character that was never completed being ill-formed. -/
def finish (s : Scan) : List (Option Char) :=
  match s.begun with
  | none => s.pieces.reverse
  | some _ => (none :: s.pieces).reverse

end Scan

/-- The characters and the ill-formed pieces of some bytes. -/
def scan (bytes : Bytes) : List (Option Char) := (bytes.foldl Scan.step ⟨none, []⟩).finish

/-- The characters of well-formed bytes. -/
def decode? (bytes : Bytes) : Option (List Char) :=
  let pieces := scan bytes
  if pieces.all Option.isSome then some (pieces.filterMap id) else none

/-- The text of well-formed bytes. -/
def decodeText? (bytes : Bytes) : Option String := (decode? bytes).map String.ofList

/-- The text of some bytes, each ill-formed piece replaced. -/
def decodeLossy (bytes : Bytes) : String :=
  String.ofList ((scan bytes).map (·.getD '\uFFFD'))

end DocumentGateway.Text.Utf8
