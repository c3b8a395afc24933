import ResumableUpload.Text.Charset.Reading

/-! UTF-16: two bytes make a unit, and a high surrogate makes a character with the low one after it. -/

namespace ResumableUpload.Text.Charset.Utf16

inductive Pending
  | none
  | byte (a : UInt8)
  | high (n : Nat)
  | highByte (n : Nat) (a : UInt8)
deriving DecidableEq, Repr

def isHigh (n : Nat) : Bool := 0xd800 ≤ n && n < 0xdc00

def isLow (n : Nat) : Bool := 0xdc00 ≤ n && n < 0xe000

def unitOf (bigEndian : Bool) (a b : UInt8) : Nat :=
  if bigEndian then a.toNat * 0x100 + b.toNat else b.toNat * 0x100 + a.toNat

def first (n : Nat) : Pending × List Char :=
  if isHigh n then (.high n, [])
  else (.none, [if isLow n then replacement else Char.ofNat n])

def second (high n : Nat) : Pending × List Char :=
  if isLow n then (.none, [Char.ofNat (0x10000 + (high - 0xd800) * 0x400 + (n - 0xdc00))])
  else
    let (next, more) := first n
    (next, replacement :: more)

def step (bigEndian : Bool) : Pending → UInt8 → Pending × List Char
  | .none, b => (.byte b, [])
  | .byte a, b => first (unitOf bigEndian a b)
  | .high n, b => (.highByte n b, [])
  | .highByte n a, b => second n (unitOf bigEndian a b)

def reading (bigEndian : Bool) : Reading Pending where
  start := .none
  step := step bigEndian
  finish := fun
    | .none => []
    | _ => [replacement]

end ResumableUpload.Text.Charset.Utf16
