/-! Unsigned decimal numbers as they are written in forms and settings. -/

namespace ResumableUpload.Text.Decimal

def value (digits : List Char) : Nat := Nat.ofDigitChars 10 digits 0

def readChars? (bound : Nat) : List Char → Option Nat
  | '+' :: digits => readDigits digits
  | digits => readDigits digits
where
  readDigits (digits : List Char) : Option Nat :=
    if digits ≠ [] ∧ digits.all Char.isDigit ∧ value digits < bound then some (value digits) else none

def read? (bound : Nat) (s : String) : Option Nat := readChars? bound s.toList

def readUInt32? (s : String) : Option UInt32 := (read? UInt32.size s).map UInt32.ofNat

def readUInt64? (s : String) : Option UInt64 := (read? UInt64.size s).map UInt64.ofNat

end ResumableUpload.Text.Decimal
