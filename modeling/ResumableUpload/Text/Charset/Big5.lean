import ResumableUpload.Text.Charset.Index.Big5
import ResumableUpload.Text.Charset.Reading

/-! Big5, the Chinese character set of Taiwan and Hong Kong. -/

namespace ResumableUpload.Text.Charset.Big5

def number? (lead trail : UInt8) : Option Nat :=
  let row := (lead.toNat - 0x81) * 157
  if 0x40 ≤ trail ∧ trail ≤ 0x7e then some (row + (trail.toNat - 0x40))
  else if 0xa1 ≤ trail ∧ trail ≤ 0xfe then some (row + (trail.toNat - 0x62))
  else none

def composed : List (Nat × List Char) :=
  [(1133, ['\u00ca', '\u0304']), (1135, ['\u00ca', '\u030c']), (1164, ['\u00ea', '\u0304']),
    (1166, ['\u00ea', '\u030c'])]

def pairs : Pairs where
  single? b := if isAscii b then some (asciiChar b) else none
  isLead b := 0x81 ≤ b && b ≤ 0xfe
  pair? lead trail := do
    let n ← number? lead trail
    composed.lookup n <|> (Index.big5.char? n).map ([·])

end ResumableUpload.Text.Charset.Big5
