import ResumableUpload.Text.Charset.Index.Hangul
import ResumableUpload.Text.Charset.Reading

/-! The Korean character set in pairs of bytes. -/

namespace ResumableUpload.Text.Charset.Korean

def pairs : Pairs where
  single? b := if isAscii b then some (asciiChar b) else none
  isLead b := 0x81 ≤ b && b ≤ 0xfe
  pair? lead trail :=
    if 0x41 ≤ trail ∧ trail ≤ 0xfe then
      (Index.korean.char? ((lead.toNat - 0x81) * 190 + (trail.toNat - 0x41))).map ([·])
    else none

end ResumableUpload.Text.Charset.Korean
