import ResumableUpload.Text.Hex

/-! Percent-encoded bytes. -/

namespace ResumableUpload.Text.Percent

def decode : List UInt8 → List UInt8
  | 0x25 :: high :: low :: rest =>
    match Hex.digitValue? high, Hex.digitValue? low with
    | some h, some l => (h * 16 + l) :: decode rest
    | _, _ => 0x25 :: decode (high :: low :: rest)
  | b :: rest => b :: decode rest
  | [] => []
termination_by l => l.length

def upperDigits : List UInt8 := "0123456789ABCDEF".toUTF8.toList

def encodeByte (b : UInt8) : List UInt8 :=
  [0x25, upperDigits.getD (b.toNat / 16) 0, upperDigits.getD (b.toNat % 16) 0]

def escape (unsafeChars : String) (cs : List Char) : String :=
  let escapeChar (c : Char) : List Char :=
    if c.toNat < 0x20 ∨ 0x7e < c.toNat ∨ unsafeChars.toList.contains c then
      ((String.utf8EncodeChar c).flatMap encodeByte).map fun b => Char.ofNat b.toNat
    else [c]
  String.ofList (cs.flatMap escapeChar)

end ResumableUpload.Text.Percent
