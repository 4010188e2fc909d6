import DocumentGateway.Text.Charset.Decoder
import DocumentGateway.Text.Charset.Jis

/-!
# Japanese charsets

Shift JIS, EUC-JP and ISO-2022-JP, three ways to write the charts of JIS X 0208. The first two also
write half-width katakana, the second the chart of JIS X 0212, and the third switches between sets
of characters with escape sequences.
-/

namespace DocumentGateway.Text.Charset

/-- The half-width katakana at an offset. -/
def halfKatakana (offset : Nat) : Char := Char.ofNat (0xFF61 + offset)

namespace ShiftJis

/-- The chart position of a pair. -/
def pointer? (lead trail : UInt8) : Option Nat :=
  if (0x40 ≤ trail && trail ≤ 0x7E) || (0x80 ≤ trail && trail ≤ 0xFC) then
    let row := lead.toNat - (if lead < 0xA0 then 0x81 else 0xC1)
    let cell := trail.toNat - (if trail < 0x7F then 0x40 else 0x41)
    some (row * 188 + cell)
  else none

/-- The character at a position; a part of the positions is for private use. -/
def char? (pointer : Nat) : Option Char :=
  if 8836 ≤ pointer && pointer ≤ 10715 then some (Char.ofNat (0xE000 + (pointer - 8836)))
  else jisX0208.get? pointer

/-- The pairs of Shift JIS. -/
def pairs : Pairs where
  single b :=
    if b ≤ 0x80 then some (asciiChar b)
    else if 0xA1 ≤ b && b ≤ 0xDF then some (halfKatakana (b.toNat - 0xA1))
    else none
  isLead b := (0x81 ≤ b && b ≤ 0x9F) || (0xE0 ≤ b && b ≤ 0xFC)
  pair lead trail := ((pointer? lead trail).bind char?).map ([·])

end ShiftJis

namespace EucJp

/-- Where a reader stands. -/
inductive State where
  /-- Between characters. -/
  | clear
  /-- After a lead byte. -/
  | lead (byte : UInt8)
  /-- After the mark of JIS X 0212 and a lead byte. -/
  | supplementary (byte : UInt8)

/-- Whether a byte belongs to a chart. -/
def isChartByte (b : UInt8) : Bool := 0xA1 ≤ b && b ≤ 0xFE

/-- The character of a chart at a row and a cell. -/
def chartChar? (chart : Table) (row cell : UInt8) : Option Char :=
  if isChartByte row && isChartByte cell then
    chart.get? ((row.toNat - 0xA1) * 94 + (cell.toNat - 0xA1))
  else none

/-- What a byte completes that should have completed a character. -/
def settle (found : Option Char) (b : UInt8) : State × List Piece :=
  match found with
  | some c => (.clear, [some c])
  | none => (.clear, if b < 0x80 then [none, some (asciiChar b)] else [none])

/-- Read a byte. -/
def step : State → UInt8 → State × List Piece
  | .clear, b =>
    if b < 0x80 then (.clear, [some (asciiChar b)])
    else if b = 0x8E || b = 0x8F || isChartByte b then (.lead b, [])
    else (.clear, [none])
  | .lead lead, b =>
    if lead = 0x8E && 0xA1 ≤ b && b ≤ 0xDF then
      (.clear, [some (halfKatakana (b.toNat - 0xA1))])
    else if lead = 0x8F && isChartByte b then (.supplementary b, [])
    else settle (chartChar? jisX0208 lead b) b
  | .supplementary lead, b => settle (chartChar? jisX0212 lead b) b

/-- The decoder of EUC-JP. -/
def decoder : Decoder State where
  start := .clear
  step := step
  finish
    | .clear => []
    | _ => [none]

end EucJp

namespace Iso2022Jp

/-- A set of characters that an escape sequence selects. -/
inductive Selection where
  | ascii
  | roman
  | katakana
  | kanji
  deriving DecidableEq

/-- Where a reader stands within a character or an escape sequence. -/
inductive Point where
  /-- Between characters. -/
  | clear
  /-- After the first byte of a kanji. -/
  | kanji (lead : UInt8)
  /-- After the escape character. -/
  | escape
  /-- After the escape character and the byte that follows it. -/
  | sequence (byte : UInt8)

/-- Where a reader stands. -/
structure State where
  /-- The set selected. -/
  selected : Selection
  /-- Whether nothing has been written since it was selected. -/
  idle : Bool
  /-- The place within a character or an escape sequence. -/
  point : Point

/-- The character that a byte is in the sets of one byte. -/
def char? : Selection → UInt8 → Option Char
  | .ascii, b =>
    if b < 0x80 && b != 0x0E && b != 0x0F then some (asciiChar b) else none
  | .roman, b =>
    if b = 0x5C then some '\u00A5'
    else if b = 0x7E then some '\u203E'
    else if b < 0x80 && b != 0x0E && b != 0x0F then some (asciiChar b)
    else none
  | .katakana, b => if 0x21 ≤ b && b ≤ 0x5F then some (halfKatakana (b.toNat - 0x21)) else none
  | .kanji, _ => none

/-- The set that the two bytes after an escape character select. -/
def selected? (first second : UInt8) : Option Selection :=
  if first = 0x28 && second = 0x42 then some .ascii
  else if first = 0x28 && second = 0x4A then some .roman
  else if first = 0x28 && second = 0x49 then some .katakana
  else if first = 0x24 && (second = 0x40 || second = 0x42) then some .kanji
  else none

/-- Read a byte between characters. -/
def begin (s : State) (b : UInt8) : State × List Piece :=
  if b = 0x1B then ({ s with point := .escape }, [])
  else if s.selected = .kanji && 0x21 ≤ b && b ≤ 0x7E then (⟨s.selected, false, .kanji b⟩, [])
  else (⟨s.selected, false, .clear⟩, [char? s.selected b])

/-- Read the second byte of a kanji. -/
def complete (s : State) (lead b : UInt8) : State × List Piece :=
  if b = 0x1B then ({ s with point := .escape }, [none])
  else if 0x21 ≤ b && b ≤ 0x7E then
    ({ s with point := .clear },
      [jisX0208.get? ((lead.toNat - 0x21) * 94 + (b.toNat - 0x21))])
  else ({ s with point := .clear }, [none])

/-- Read a byte where no escape sequence is open. -/
def plain (s : State) (b : UInt8) : State × List Piece :=
  match s.point with
  | .kanji lead => complete s lead b
  | _ => begin s b

/-- What is left of a broken escape sequence is read as text, after an ill-formed piece. -/
def abandon (s : State) : State × List Piece := (⟨s.selected, false, .clear⟩, [none])

/-- Read a byte and go on from the pieces before. -/
def goOn (before : State × List Piece) (b : UInt8) : State × List Piece :=
  ((plain before.1 b).1, before.2 ++ (plain before.1 b).2)

/-- Read a byte. -/
def step (s : State) (b : UInt8) : State × List Piece :=
  match s.point with
  | .escape =>
    if b = 0x24 || b = 0x28 then ({ s with point := .sequence b }, []) else goOn (abandon s) b
  | .sequence first =>
    match selected? first b with
    | some set => (⟨set, true, .clear⟩, if s.idle then [none] else [])
    | none => goOn (goOn (abandon s) first) b
  | _ => plain s b

/-- The pieces that the end completes. -/
def finish (s : State) : List Piece :=
  match s.point with
  | .clear => []
  | .kanji _ | .escape => [none]
  | .sequence first =>
    match goOn (abandon s) first with
    | (⟨_, _, .kanji _⟩, pieces) => pieces ++ [none]
    | (_, pieces) => pieces

/-- The decoder of ISO-2022-JP. -/
def decoder : Decoder State where
  start := ⟨.ascii, false, .clear⟩
  step := step
  finish := finish

end Iso2022Jp

end DocumentGateway.Text.Charset
