/-! Hexadecimal text: two digits per byte, written in lower case and read in either case. -/

namespace ResumableUpload.Text.Hex

def digits : List Char := "0123456789abcdef".toList

def digit (n : Nat) : Char := digits.getD n '0'

def encodeChars : List UInt8 → List Char
  | [] => []
  | b :: rest => digit (b.toNat / 16) :: digit (b.toNat % 16) :: encodeChars rest

def encode (l : List UInt8) : String := String.ofList (encodeChars l)

inductive Malformed
  | oddLength
  | badDigit (byte : UInt8) (position : Nat)
deriving DecidableEq, Repr

def digitValue? (b : UInt8) : Option UInt8 :=
  if 0x30 ≤ b ∧ b ≤ 0x39 then some (b - 0x30)
  else if 0x61 ≤ b ∧ b ≤ 0x66 then some (b - 0x57)
  else if 0x41 ≤ b ∧ b ≤ 0x46 then some (b - 0x37)
  else none

def decodePairs (position : Nat) : List UInt8 → Except Malformed (List UInt8)
  | high :: low :: rest =>
    match digitValue? high, digitValue? low with
    | some h, some l => (decodePairs (position + 2) rest).map ((h * 16 + l) :: ·)
    | none, _ => .error (.badDigit high position)
    | _, none => .error (.badDigit low (position + 1))
  | _ => .ok []

def decode (text : List UInt8) : Except Malformed (List UInt8) :=
  if text.length % 2 = 1 then .error .oddLength else decodePairs 0 text

end ResumableUpload.Text.Hex
