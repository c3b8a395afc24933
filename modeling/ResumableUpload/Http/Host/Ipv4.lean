import ResumableUpload.Text.Hex

/-! Numeric addresses of four bytes: one to four numbers, each decimal, octal or hexadecimal. -/

namespace ResumableUpload.Http.Ipv4

open Text

def digitValue? (base : Nat) (c : Char) : Option Nat := do
  guard (c.toNat < 0x80)
  let n := (← Hex.digitValue? c.toNat.toUInt8).toNat
  if n < base then some n else none

def ofDigits? (base : Nat) (digits : List Char) : Option Nat :=
  digits.foldlM (fun n c => (digitValue? base c).map (n * base + ·)) 0

def number? : List Char → Option Nat
  | [] => none
  | '0' :: 'x' :: rest => ofDigits? 16 rest
  | '0' :: 'X' :: rest => ofDigits? 16 rest
  | '0' :: rest => ofDigits? 8 rest
  | cs => ofDigits? 10 cs

def withoutLastDot (parts : List (List Char)) : List (List Char) :=
  if parts.getLast? = some [] then parts.dropLast else parts

def isDecimal (part : List Char) : Bool := part ≠ [] && part.all Char.isDigit

def endsInNumber (parts : List (List Char)) : Bool :=
  (withoutLastDot parts).getLast?.any fun part => isDecimal part || (number? part).isSome

def ofNumbers? (numbers : List Nat) : Option Nat :=
  -- each part but the last is a byte; the last one fills the bytes that are left
  match numbers.reverse with
  | [] => none
  | last :: before =>
    let high := before.reverse.foldl (fun n b => n * 0x100 + b) 0
    let room := 0x100000000 / Nat.pow 0x100 before.length
    if before.length < 4 ∧ before.all (· < 0x100) ∧ last < room then some (high * room + last) else none

def read? (parts : List (List Char)) : Option Nat := do ofNumbers? (← (withoutLastDot parts).mapM number?)

def text (address : Nat) : String :=
  ".".intercalate ([0x1000000, 0x10000, 0x100, 1].map fun unit => toString (address / unit % 0x100))

end ResumableUpload.Http.Ipv4
