import DocumentGateway.Text.Charset.Decoder
import DocumentGateway.Text.Charset.Table

/-!
# Charsets of one byte

Charsets in which every byte is a character. Below 0x80 all of them are ASCII; each table holds the
characters from there on.
-/

namespace DocumentGateway.Text.Charset

/-- A charset of one byte. -/
inductive SingleByte where
  | ibm866
  | iso88592
  | iso88593
  | iso88594
  | iso88595
  | iso88596
  | iso88597
  | iso88598
  | iso885910
  | iso885913
  | iso885914
  | iso885915
  | iso885916
  | koi8r
  | koi8u
  | macRoman
  | macCyrillic
  | windows874
  | windows1250
  | windows1251
  | windows1252
  | windows1253
  | windows1254
  | windows1255
  | windows1256
  | windows1257
  | windows1258
  deriving DecidableEq, Repr

namespace SingleByte.Upper

/-- The upper half of IBM 866. -/
def ibm866 : Table :=
  .ofRuns 128
    [.sequence 0 0x0410 48, .chars 48 "░▒▓│┤╡╢╖╕╣║╗╝╜╛┐└┴┬├─┼╞╟╚╔╩╦╠═╬╧╨╤╥╙╘╒╓╫╪┘┌█▄▌▐▀",
     .sequence 96 0x0440 16, .chars 112 "ЁёЄєЇїЎў°∙·√№¤■\u00a0"]

/-- The upper half of ISO 8859-2. -/
def iso88592 : Table :=
  .ofRuns 128
    [.sequence 0 0x0080 33,
     .chars 33 "Ą˘Ł¤ĽŚ§¨ŠŞŤŹ\u00adŽŻ°ą˛ł´ľśˇ¸šşťź˝žżŔÁÂĂÄĹĆÇČÉĘËĚÍÎĎĐŃŇÓÔŐÖ×ŘŮÚŰÜÝŢßŕáâăäĺćçčéę",
     .chars 107 "ëěíîďđńňóôőö÷řůúűüýţ˙"]

/-- The upper half of ISO 8859-3. -/
def iso88593 : Table :=
  .ofRuns 128
    [.sequence 0 0x0080 33, .chars 33 "Ħ˘£¤", .chars 38 "Ĥ§¨İŞĞĴ\u00ad",
     .chars 47 "Ż°ħ²³´µĥ·¸ışğĵ½", .chars 63 "żÀÁÂ", .chars 68 "ÄĊĈ", .sequence 71 0x00C7 9,
     .chars 81 "ÑÒÓÔĠÖ×ĜÙÚÛÜŬŜßàáâ", .chars 100 "äċĉ", .sequence 103 0x00E7 9,
     .chars 113 "ñòóôġö÷ĝùúûüŭŝ˙"]

/-- The upper half of ISO 8859-4. -/
def iso88594 : Table :=
  .ofRuns 128
    [.sequence 0 0x0080 33,
     .chars 33 "ĄĸŖ¤ĨĻ§¨ŠĒĢŦ\u00adŽ¯°ą˛ŗ´ĩļˇ¸šēģŧŊžŋĀÁÂÃÄÅÆĮČÉĘËĖÍÎĪĐŅŌĶÔÕÖ×ØŲÚÛÜŨŪßāáâãäåæįčéę",
     .chars 107 "ëėíîīđņōķôõö÷øųúûüũū˙"]

/-- The upper half of ISO 8859-5. -/
def iso88595 : Table :=
  .ofRuns 128
    [.sequence 0 0x0080 33, .sequence 33 0x0401 12, .chars 45 "\u00ad", .sequence 46 0x040E 66,
     .chars 112 "№", .sequence 113 0x0451 12, .chars 125 "§ўџ"]

/-- The upper half of ISO 8859-6. -/
def iso88596 : Table :=
  .ofRuns 128
    [.sequence 0 0x0080 33, .chars 36 "¤", .chars 44 "،\u00ad", .chars 59 "\u061b",
     .chars 63 "\u061f", .sequence 65 0x0621 26, .sequence 96 0x0640 19]

/-- The upper half of ISO 8859-7. -/
def iso88597 : Table :=
  .ofRuns 128
    [.sequence 0 0x0080 33, .chars 33 "‘’£€₯¦§¨©ͺ«¬\u00ad", .chars 47 "―°±²³΄΅Ά·ΈΉΊ»Ό½",
     .sequence 62 0x038E 20, .sequence 83 0x03A3 44]

/-- The upper half of ISO 8859-8. -/
def iso88598 : Table :=
  .ofRuns 128
    [.sequence 0 0x0080 33, .sequence 34 0x00A2 8, .chars 42 "×", .sequence 43 0x00AB 15,
     .chars 58 "÷»¼½¾", .chars 95 "‗", .sequence 96 0x05D0 27, .chars 125 "\u200e\u200f"]

/-- The upper half of ISO 8859-10. -/
def iso885910 : Table :=
  .ofRuns 128
    [.sequence 0 0x0080 33,
     .chars 33 "ĄĒĢĪĨĶ§ĻĐŠŦŽ\u00adŪŊ°ąēģīĩķ·ļđšŧž―ūŋĀÁÂÃÄÅÆĮČÉĘËĖÍÎÏÐŅŌÓÔÕÖŨØŲÚÛÜÝÞßāáâãäåæįčéę",
     .chars 107 "ëėíîïðņōóôõöũøųúûüýþĸ"]

/-- The upper half of ISO 8859-13. -/
def iso885913 : Table :=
  .ofRuns 128
    [.sequence 0 0x0080 33,
     .chars 33 "”¢£¤„¦§Ø©Ŗ«¬\u00ad®Æ°±²³“µ¶·ø¹ŗ»¼½¾æĄĮĀĆÄÅĘĒČÉŹĖĢĶĪĻŠŃŅÓŌÕÖ×ŲŁŚŪÜŻŽßąįāćäåęēčéź",
     .chars 107 "ėģķīļšńņóōõö÷ųłśūüżž’"]

/-- The upper half of ISO 8859-14. -/
def iso885914 : Table :=
  .ofRuns 128
    [.sequence 0 0x0080 33, .chars 33 "Ḃḃ£ĊċḊ§Ẁ©ẂḋỲ\u00ad®ŸḞḟĠġṀṁ¶ṖẁṗẃṠỳẄẅṡ",
     .sequence 64 0x00C0 16, .chars 80 "ŴÑÒÓÔÕÖṪØÙÚÛÜÝŶ", .sequence 95 0x00DF 17,
     .chars 112 "ŵñòóôõöṫøùúûüýŷÿ"]

/-- The upper half of ISO 8859-15. -/
def iso885915 : Table :=
  .ofRuns 128
    [.sequence 0 0x0080 36, .chars 36 "€¥Š§š", .sequence 41 0x00A9 11, .chars 52 "Žµ¶·ž¹º»ŒœŸ",
     .sequence 63 0x00BF 65]

/-- The upper half of ISO 8859-16. -/
def iso885916 : Table :=
  .ofRuns 128
    [.sequence 0 0x0080 33, .chars 33 "ĄąŁ€„Š§š©Ș«Ź\u00adźŻ°±ČłŽ”¶·žčș»ŒœŸżÀÁÂĂÄĆ",
     .sequence 70 0x00C6 10, .chars 80 "ĐŃÒÓÔŐÖŚŰÙÚÛÜĘȚßàáâăäć", .sequence 102 0x00E6 10,
     .chars 112 "đńòóôőöśűùúûüęțÿ"]

/-- The upper half of KOI8-R. -/
def koi8r : Table :=
  .ofRuns 128
    [.chars 0 "─│┌┐└┘├┤┬┴┼▀▄█▌▐░▒▓⌠■∙√≈≤≥\u00a0⌡°²·÷═║╒ё", .sequence 36 0x2553 15, .chars 51 "Ё",
     .sequence 52 0x2562 11, .chars 63 "©юабцдефгх", .sequence 73 0x0438 8,
     .chars 81 "ярстужвьызшэщчъЮАБЦДЕФГХ", .sequence 105 0x0418 8, .chars 113 "ЯРСТУЖВЬЫЗШЭЩЧЪ"]

/-- The upper half of KOI8-U. -/
def koi8u : Table :=
  .ofRuns 128
    [.chars 0 "─│┌┐└┘├┤┬┴┼▀▄█▌▐░▒▓⌠■∙√≈≤≥\u00a0⌡°²·÷═║╒ёє╔ії╗╘╙╚╛ґў╞╟╠╡ЁЄ╣ІЇ╦╧╨╩╪ҐЎ©юабцдефгх",
     .sequence 73 0x0438 8, .chars 81 "ярстужвьызшэщчъЮАБЦДЕФГХ", .sequence 105 0x0418 8,
     .chars 113 "ЯРСТУЖВЬЫЗШЭЩЧЪ"]

/-- The upper half of Mac Roman. -/
def macRoman : Table :=
  .ofRuns 128
    [.chars 0 "ÄÅÇÉÑÖÜáàâäãåçéèêëíìîïñóòôöõúùûü†°¢£§•¶ß®©™´¨≠ÆØ∞±≤≥¥µ∂∑∏π∫ªºΩæø¿¡¬√ƒ≈∆«»…\u00a0",
     .chars 75 "ÀÃÕŒœ–—“”‘’÷◊ÿŸ⁄€‹›ﬁﬂ‡·‚„‰ÂÊÁËÈÍÎÏÌÓÔ\uf8ffÒÚÛÙıˆ˜¯˘˙˚¸˝˛ˇ"]

/-- The upper half of Mac Cyrillic. -/
def macCyrillic : Table :=
  .ofRuns 128
    [.sequence 0 0x0410 32,
     .chars 32 "†°Ґ£§•¶І®©™Ђђ≠Ѓѓ∞±≤≥іµґЈЄєЇїЉљЊњјЅ¬√ƒ≈∆«»…\u00a0ЋћЌќѕ–—“”‘’÷„ЎўЏџ№Ёёя",
     .sequence 96 0x0430 31, .chars 127 "€"]

/-- The upper half of Windows 874. -/
def windows874 : Table :=
  .ofRuns 128
    [.chars 0 "€\u0081\u0082\u0083\u0084…", .sequence 6 0x0086 11, .chars 17 "‘’“”•–—",
     .sequence 24 0x0098 9, .sequence 33 0x0E01 58, .sequence 95 0x0E3F 29]

/-- The upper half of Windows 1250. -/
def windows1250 : Table :=
  .ofRuns 128
    [.chars 0 "€\u0081‚\u0083„…†‡\u0088‰Š‹ŚŤŽŹ\u0090‘’“”•–—\u0098™š›śťžź\u00a0ˇ˘Ł¤Ą¦§¨©Ş«¬",
     .chars 45 "\u00ad®Ż°±˛ł´µ¶·¸ąş»Ľ˝ľżŔÁÂĂÄĹĆÇČÉĘËĚÍÎĎĐŃŇÓÔŐÖ×ŘŮÚŰÜÝŢßŕáâăäĺćçčéęëěíîďđńňóôőö",
     .chars 119 "÷řůúűüýţ˙"]

/-- The upper half of Windows 1251. -/
def windows1251 : Table :=
  .ofRuns 128
    [.chars 0 "ЂЃ‚ѓ„…†‡€‰Љ‹ЊЌЋЏђ‘’“”•–—\u0098™љ›њќћџ\u00a0ЎўЈ¤Ґ¦§Ё©Є«¬\u00ad®Ї°±Ііґµ¶·ё№є»јЅѕї",
     .sequence 64 0x0410 64]

/-- The upper half of Windows 1252. -/
def windows1252 : Table :=
  .ofRuns 128
    [.chars 0 "€\u0081‚ƒ„…†‡ˆ‰Š‹Œ\u008dŽ\u008f\u0090‘’“”•–—˜™š›œ\u009džŸ", .sequence 32 0x00A0 96]

/-- The upper half of Windows 1253. -/
def windows1253 : Table :=
  .ofRuns 128
    [.chars 0 "€\u0081‚ƒ„…†‡\u0088‰\u008a‹\u008c\u008d\u008e\u008f\u0090‘’“”•–—\u0098™\u009a›",
     .chars 28 "\u009c\u009d\u009e\u009f\u00a0΅Ά£¤¥¦§¨©", .chars 43 "«¬\u00ad®―°±²³΄µ¶·ΈΉΊ»Ό½",
     .sequence 62 0x038E 20, .sequence 83 0x03A3 44]

/-- The upper half of Windows 1254. -/
def windows1254 : Table :=
  .ofRuns 128
    [.chars 0 "€\u0081‚ƒ„…†‡ˆ‰Š‹Œ\u008d\u008e\u008f\u0090‘’“”•–—˜™š›œ\u009d\u009eŸ",
     .sequence 32 0x00A0 48, .chars 80 "Ğ", .sequence 81 0x00D1 12, .chars 93 "İŞ",
     .sequence 95 0x00DF 17, .chars 112 "ğ", .sequence 113 0x00F1 12, .chars 125 "ışÿ"]

/-- The upper half of Windows 1255. -/
def windows1255 : Table :=
  .ofRuns 128
    [.chars 0 "€\u0081‚ƒ„…†‡ˆ‰\u008a‹\u008c\u008d\u008e\u008f\u0090‘’“”•–—˜™\u009a›",
     .sequence 28 0x009C 8, .chars 36 "₪¥¦§¨©×", .sequence 43 0x00AB 15, .chars 58 "÷»¼½¾¿",
     .sequence 64 0x05B0 20, .chars 84 "\u05f0\u05f1\u05f2\u05f3\u05f4", .sequence 96 0x05D0 27,
     .chars 125 "\u200e\u200f"]

/-- The upper half of Windows 1256. -/
def windows1256 : Table :=
  .ofRuns 128
    [.chars 0 "€\u067e‚ƒ„…†‡ˆ‰\u0679‹Œ\u0686\u0698\u0688\u06af‘’“”•–—\u06a9™\u0691›œ\u200c",
     .chars 30 "\u200d\u06ba\u00a0،", .sequence 34 0x00A2 8, .chars 42 "\u06be",
     .sequence 43 0x00AB 15, .chars 58 "\u061b»¼½¾\u061f\u06c1", .sequence 65 0x0621 22,
     .chars 87 "×\u0637\u0638\u0639\u063a\u0640\u0641\u0642\u0643à\u0644â\u0645\u0646\u0647",
     .chars 102 "\u0648çèéêë\u0649\u064aîï\u064b\u064c\u064d\u064eô\u064f\u0650÷\u0651ù\u0652ûü",
     .chars 125 "\u200e\u200f\u06d2"]

/-- The upper half of Windows 1257. -/
def windows1257 : Table :=
  .ofRuns 128
    [.chars 0 "€\u0081‚\u0083„…†‡\u0088‰\u008a‹\u008c¨ˇ¸\u0090‘’“”•–—\u0098™\u009a›\u009c¯˛",
     .chars 31 "\u009f\u00a0", .chars 34 "¢£¤", .chars 38 "¦§Ø©Ŗ«¬\u00ad®Æ", .sequence 48 0x00B0 8,
     .chars 56 "ø¹ŗ»¼½¾æĄĮĀĆÄÅĘĒČÉŹĖĢĶĪĻŠŃŅÓŌÕÖ×ŲŁŚŪÜŻŽßąįāćäåęēčéźėģķīļšńņóōõö÷ųłśūüżž˙"]

/-- The upper half of Windows 1258. -/
def windows1258 : Table :=
  .ofRuns 128
    [.chars 0 "€\u0081‚ƒ„…†‡ˆ‰\u008a‹Œ\u008d\u008e\u008f\u0090‘’“”•–—˜™\u009a›œ\u009d\u009eŸ",
     .sequence 32 0x00A0 35, .chars 67 "Ă", .sequence 68 0x00C4 8,
     .chars 76 "\u0300ÍÎÏĐÑ\u0309ÓÔƠÖ×ØÙÚÛÜƯ\u0303ßàáâă", .sequence 100 0x00E4 8,
     .chars 108 "\u0301íîïđñ\u0323óôơö÷øùúûüư₫ÿ"]

end SingleByte.Upper

namespace SingleByte

/-- The upper half of a charset. -/
def upper : SingleByte → Table
  | .ibm866 => Upper.ibm866
  | .iso88592 => Upper.iso88592
  | .iso88593 => Upper.iso88593
  | .iso88594 => Upper.iso88594
  | .iso88595 => Upper.iso88595
  | .iso88596 => Upper.iso88596
  | .iso88597 => Upper.iso88597
  | .iso88598 => Upper.iso88598
  | .iso885910 => Upper.iso885910
  | .iso885913 => Upper.iso885913
  | .iso885914 => Upper.iso885914
  | .iso885915 => Upper.iso885915
  | .iso885916 => Upper.iso885916
  | .koi8r => Upper.koi8r
  | .koi8u => Upper.koi8u
  | .macRoman => Upper.macRoman
  | .macCyrillic => Upper.macCyrillic
  | .windows874 => Upper.windows874
  | .windows1250 => Upper.windows1250
  | .windows1251 => Upper.windows1251
  | .windows1252 => Upper.windows1252
  | .windows1253 => Upper.windows1253
  | .windows1254 => Upper.windows1254
  | .windows1255 => Upper.windows1255
  | .windows1256 => Upper.windows1256
  | .windows1257 => Upper.windows1257
  | .windows1258 => Upper.windows1258

/-- The decoder of a charset. -/
def decoder (s : SingleByte) : Decoder Unit :=
  bytewise fun b => if b < 0x80 then some (asciiChar b) else s.upper.get? (b.toNat - 0x80)

end SingleByte

end DocumentGateway.Text.Charset
