import Schematron.Encoding.Chinese
import Schematron.Encoding.Japanese
import Schematron.Encoding.Korean
import Schematron.Encoding.SingleByte
import Schematron.Encoding.Utf16
import Schematron.Encoding.Utf8

namespace Schematron

inductive Encoding
  | utf8
  | utf16 (order : ByteOrder)
  | singleByte (set : SingleByte)
  | userDefined
  | gbk
  | gb18030
  | big5
  | eucJp
  | iso2022Jp
  | shiftJis
  | eucKr
  /-- Stands for labels that are known and never decoded. -/
  | replacement
  deriving DecidableEq, Repr

def SingleByte.name : SingleByte → String
  | .ibm866 => "IBM866"
  | .iso8859Part2 => "ISO-8859-2"
  | .iso8859Part3 => "ISO-8859-3"
  | .iso8859Part4 => "ISO-8859-4"
  | .iso8859Part5 => "ISO-8859-5"
  | .iso8859Part6 => "ISO-8859-6"
  | .iso8859Part7 => "ISO-8859-7"
  | .iso8859Part8 => "ISO-8859-8"
  | .iso8859Part8Logical => "ISO-8859-8-I"
  | .iso8859Part10 => "ISO-8859-10"
  | .iso8859Part13 => "ISO-8859-13"
  | .iso8859Part14 => "ISO-8859-14"
  | .iso8859Part15 => "ISO-8859-15"
  | .iso8859Part16 => "ISO-8859-16"
  | .koi8R => "KOI8-R"
  | .koi8U => "KOI8-U"
  | .macRoman => "macintosh"
  | .windows874 => "windows-874"
  | .windows1250 => "windows-1250"
  | .windows1251 => "windows-1251"
  | .windows1252 => "windows-1252"
  | .windows1253 => "windows-1253"
  | .windows1254 => "windows-1254"
  | .windows1255 => "windows-1255"
  | .windows1256 => "windows-1256"
  | .windows1257 => "windows-1257"
  | .windows1258 => "windows-1258"
  | .macCyrillic => "x-mac-cyrillic"

namespace Encoding

def name : Encoding → String
  | .utf8 => "UTF-8"
  | .utf16 .little => "UTF-16LE"
  | .utf16 .big => "UTF-16BE"
  | .singleByte set => set.name
  | .userDefined => "x-user-defined"
  | .gbk => "GBK"
  | .gb18030 => "gb18030"
  | .big5 => "Big5"
  | .eucJp => "EUC-JP"
  | .iso2022Jp => "ISO-2022-JP"
  | .shiftJis => "Shift_JIS"
  | .eucKr => "EUC-KR"
  | .replacement => "replacement"

/-- The text of the bytes, or nothing where any of them is malformed. -/
def decode : Encoding → List UInt8 → Option (List Char)
  | .utf8, bytes => Utf8.decode bytes
  | .utf16 order, bytes => Utf16.decode order bytes
  | .singleByte set, bytes => set.decoder.run bytes
  | .userDefined, bytes => userDefinedDecoder.run bytes
  | .gbk, bytes => Gb18030.decoder.run bytes
  | .gb18030, bytes => Gb18030.decoder.run bytes
  | .big5, bytes => Big5.decoder.run bytes
  | .eucJp, bytes => EucJp.decoder.run bytes
  | .iso2022Jp, bytes => Iso2022Jp.decoder.run bytes
  | .shiftJis, bytes => ShiftJis.decoder.run bytes
  | .eucKr, bytes => EucKr.decoder.run bytes
  | .replacement, _ => none

end Encoding
end Schematron
