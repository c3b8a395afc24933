import ResumableUpload.Text.Charset.Big5
import ResumableUpload.Text.Charset.Gb18030
import ResumableUpload.Text.Charset.Japanese
import ResumableUpload.Text.Charset.Korean
import ResumableUpload.Text.Charset.Label
import ResumableUpload.Text.Charset.Utf16
import ResumableUpload.Text.Utf8

/-! Texts in a declared character set, and the marks that override the declaration. -/

namespace ResumableUpload.Text.Charset

def ofSingleByte (upper : Index) (b : UInt8) : Char :=
  if isAscii b then asciiChar b else (upper.char? (b.toNat - 0x80)).getD replacement

def decodePlain : Charset → Bytes → String
  | .utf8, b => Utf8.decodeLossy b
  | .utf16 bigEndian, b => (Utf16.reading bigEndian).decode b
  | .singleByte upper, b => String.ofList (b.octets.map (ofSingleByte upper))
  | .gb18030, b => Gb18030.reading.decode b
  | .big5, b => Big5.pairs.reading.decode b
  | .eucJp, b => EucJp.reading.decode b
  | .iso2022Jp, b => Iso2022Jp.reading.decode b
  | .shiftJis, b => ShiftJis.pairs.reading.decode b
  | .eucKr, b => Korean.pairs.reading.decode b
  | .withdrawn, b => if b.size = 0 then "" else String.singleton replacement

def marked? (b : Bytes) : Option (Charset × Nat) :=
  match Bytes.octets (b.extract 0 3) with
  | [0xef, 0xbb, 0xbf] => some (.utf8, 3)
  | 0xff :: 0xfe :: _ => some (.utf16 false, 2)
  | 0xfe :: 0xff :: _ => some (.utf16 true, 2)
  | _ => none

def decode (declared : Charset) (b : Bytes) : String :=
  match marked? b with
  | some (charset, size) => decodePlain charset (b.extract size b.size)
  | none => decodePlain declared b

end ResumableUpload.Text.Charset
