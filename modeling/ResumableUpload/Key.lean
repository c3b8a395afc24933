import ResumableUpload.Failure.Upload
import ResumableUpload.Text.Blank
import ResumableUpload.Text.Hex
import ResumableUpload.Text.Quoted
import ResumableUpload.Text.Utf8

/-! Encryption keys and their hexadecimal form. -/

namespace ResumableUpload

structure EncryptionKey where
  bytes : List UInt8
deriving DecidableEq, Repr

namespace EncryptionKey

def toHex (k : EncryptionKey) : String := Text.Hex.encode k.bytes

def describeMalformed : Text.Hex.Malformed → String
  | .oddLength => "Odd number of digits"
  | .badDigit byte position =>
    s!"Invalid character {Text.Quoted.character (Char.ofNat byte.toNat)} at position {position}"

def ofHex (s : String) : Except UploadError EncryptionKey :=
  match Text.Hex.decode (Text.Utf8.encode (Text.trim s)) with
  | .ok bytes => .ok ⟨bytes⟩
  | .error e => .error (.invalidKey (describeMalformed e))

def describe (k : EncryptionKey) : String := s!"EncryptionKey([REDACTED; {k.bytes.length}])"

end EncryptionKey

end ResumableUpload
