import ResumableUpload.Text.Charset.Index.Gb18030
import ResumableUpload.Text.Charset.Reading

/-! GB 18030, the Chinese character set with characters of one, two and four bytes. -/

namespace ResumableUpload.Text.Charset.Gb18030

inductive Pending
  | none
  | one (a : UInt8)
  | two (a b : UInt8)
  | three (a b c : UInt8)
deriving DecidableEq, Repr

def isLead (b : UInt8) : Bool := 0x81 ≤ b && b ≤ 0xfe

def isDigit (b : UInt8) : Bool := 0x30 ≤ b && b ≤ 0x39

def pair? (lead trail : UInt8) : Option Char :=
  let row := (lead.toNat - 0x81) * 190
  if 0x40 ≤ trail ∧ trail ≤ 0x7e then Index.gb18030.char? (row + (trail.toNat - 0x40))
  else if 0x80 ≤ trail ∧ trail ≤ 0xfe then Index.gb18030.char? (row + (trail.toNat - 0x41))
  else none

def number (a b c d : UInt8) : Nat :=
  (((a.toNat - 0x81) * 10 + (b.toNat - 0x30)) * 126 + (c.toNat - 0x81)) * 10 + (d.toNat - 0x30)

def quadruple? (a b c d : UInt8) : Option Char :=
  let n := number a b c d
  if 39419 < n ∧ n < 189000 ∨ 1237575 < n then none
  else if n = 7457 then some '\ue7c7'
  else (Index.gb18030Runs.takeWhile (·.1 ≤ n)).getLast?.map fun (first, code) => Char.ofNat (code + (n - first))

def first (b : UInt8) : Pending × List Char :=
  if isAscii b then (.none, [asciiChar b])
  else if b = 0x80 then (.none, ['\u20ac'])
  else if isLead b then (.one b, [])
  else (.none, [replacement])

def second (a b : UInt8) : Pending × List Char :=
  if isDigit b then (.two a b, [])
  else match pair? a b with
    | some c => (.none, [c])
    | none => (.none, if isAscii b then [replacement, asciiChar b] else [replacement])

def step : Pending → UInt8 → Pending × List Char
  -- a character that breaks off is replaced, and what follows its first byte is read again
  | .none, b => first b
  | .one a, b => second a b
  | .two a b, c =>
    if isLead c then (.three a b c, [])
    else
      let (next, more) := first c
      (next, replacement :: asciiChar b :: more)
  | .three a b c, d =>
    if isDigit d then (.none, [(quadruple? a b c d).getD replacement])
    else
      let (next, more) := second c d
      (next, replacement :: asciiChar b :: more)

def reading : Reading Pending where
  start := .none
  step := step
  finish := fun
    | .none => []
    | _ => [replacement]

end ResumableUpload.Text.Charset.Gb18030
