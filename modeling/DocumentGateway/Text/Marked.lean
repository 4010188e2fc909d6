import DocumentGateway.Text.Charset.Big5
import DocumentGateway.Text.Charset.Gb18030
import DocumentGateway.Text.Charset.Japanese
import DocumentGateway.Text.Charset.Korean
import DocumentGateway.Text.Charset.Label
import DocumentGateway.Text.Utf8

/-!
# Marked text

Text in a charset, which may begin with a byte order mark. A mark tells UTF-8 from the two orders of
UTF-16 whatever the charset is said to be, and is not part of the text. Ill-formed pieces are
replaced.
-/

namespace DocumentGateway.Text

namespace Charset

/-- The character of private use for a byte of the upper half. -/
def privateChar (b : UInt8) : Char := Char.ofNat (0xF780 + (b.toNat - 0x80))

/-- The text of some bytes in a charset. -/
def decode : Charset → Bytes → String
  | .utf8, bytes => Utf8.decodeLossy bytes
  | .utf16 order, bytes => (Utf16.decoder order).decode bytes
  | .singleByte s, bytes => s.decoder.decode bytes
  | .shiftJis, bytes => ShiftJis.pairs.decoder.decode bytes
  | .eucJp, bytes => EucJp.decoder.decode bytes
  | .iso2022Jp, bytes => Iso2022Jp.decoder.decode bytes
  | .eucKr, bytes => EucKr.pairs.decoder.decode bytes
  | .big5, bytes => Big5.pairs.decoder.decode bytes
  | .gb18030, bytes => Gb18030.decoder.decode bytes
  | .userDefined, bytes =>
    (bytewise fun b => some (if b < 0x80 then asciiChar b else privateChar b)).decode bytes
  | .unreadable, bytes => if bytes.isEmpty then "" else "\uFFFD"

/-- The text of some bytes, in the charset that a byte order mark tells, or else in another. -/
def decodeMarked (otherwise : Charset) : Bytes → String
  | 0xEF :: 0xBB :: 0xBF :: rest => decode .utf8 rest
  | 0xFF :: 0xFE :: rest => decode (.utf16 .little) rest
  | 0xFE :: 0xFF :: rest => decode (.utf16 .big) rest
  | bytes => otherwise.decode bytes

end Charset

end DocumentGateway.Text
