import ResumableUpload.Text.Charset.Index.Jis
import ResumableUpload.Text.Charset.Reading

/-! The Japanese character sets: in pairs of bytes, and with escapes from one set to another. -/

namespace ResumableUpload.Text.Charset

namespace Japanese

def katakana (n : Nat) : Char := Char.ofNat (0xff61 + n)

def isKana (b : UInt8) : Bool := 0xa1 ≤ b && b ≤ 0xdf

end Japanese

open Japanese

namespace ShiftJis

def number? (lead trail : UInt8) : Option Nat :=
  let row := (lead.toNat - if lead < 0xa0 then 0x81 else 0xc1) * 188
  if 0x40 ≤ trail ∧ trail ≤ 0x7e then some (row + (trail.toNat - 0x40))
  else if 0x80 ≤ trail ∧ trail ≤ 0xfc then some (row + (trail.toNat - 0x41))
  else none

def char? (n : Nat) : Option Char :=
  if 8836 ≤ n ∧ n ≤ 10715 then some (Char.ofNat (0xe000 + (n - 8836))) else Index.jis0208.char? n

def pairs : Pairs where
  single? b := if b ≤ 0x80 then some (asciiChar b) else if isKana b then some (katakana (b.toNat - 0xa1)) else none
  isLead b := 0x81 ≤ b && b ≤ 0x9f || 0xe0 ≤ b && b ≤ 0xfc
  pair? lead trail := do return [← char? (← number? lead trail)]

end ShiftJis

namespace EucJp

inductive Pending
  | none
  | lead (b : UInt8)
  | supplementary (b : UInt8)
deriving DecidableEq, Repr

def isHigh (b : UInt8) : Bool := 0xa1 ≤ b && b ≤ 0xfe

def char? (index : Index) (lead trail : UInt8) : Option Char :=
  if isHigh lead ∧ isHigh trail then index.char? ((lead.toNat - 0xa1) * 94 + (trail.toNat - 0xa1)) else none

def first (b : UInt8) : Pending × List Char :=
  if isAscii b then (.none, [asciiChar b])
  else if b = 0x8e ∨ b = 0x8f ∨ isHigh b then (.lead b, [])
  else (.none, [replacement])

def last (index : Index) (lead b : UInt8) : Pending × List Char :=
  match char? index lead b with
  | some c => (.none, [c])
  | none => (.none, if isAscii b then [replacement, asciiChar b] else [replacement])

def step : Pending → UInt8 → Pending × List Char
  | .none, b => first b
  | .lead lead, b =>
    if lead = 0x8e ∧ isKana b then (.none, [katakana (b.toNat - 0xa1)])
    else if lead = 0x8f ∧ isHigh b then (.supplementary b, [])
    else last Index.jis0208 lead b
  | .supplementary lead, b => last Index.jis0212 lead b

def reading : Reading Pending where
  start := .none
  step := step
  finish := fun
    | .none => []
    | _ => [replacement]

end EucJp

namespace Iso2022Jp

inductive Mode
  | ascii
  | roman
  | katakana
  | kanji
deriving DecidableEq, Repr

inductive Pending
  | none
  | lead (b : UInt8)
  | escape
  | escapeWith (b : UInt8)
deriving DecidableEq, Repr

structure State where
  -- an escape right after another one is an error, so it is kept whether the last one stands alone so far
  mode : Mode
  pending : Pending
  justEscaped : Bool
deriving DecidableEq, Repr

def isGraphic (b : UInt8) : Bool := 0x21 ≤ b && b ≤ 0x7e

def single? (mode : Mode) (b : UInt8) : Option Char :=
  match mode with
  | .ascii => if isAscii b ∧ b ≠ 0x0e ∧ b ≠ 0x0f then some (asciiChar b) else none
  | .roman =>
    if b = 0x5c then some '\u00a5'
    else if b = 0x7e then some '\u203e'
    else if isAscii b ∧ b ≠ 0x0e ∧ b ≠ 0x0f then some (asciiChar b)
    else none
  | .katakana => if 0x21 ≤ b ∧ b ≤ 0x5f then some (Japanese.katakana (b.toNat - 0x21)) else none
  | .kanji => none

def first (mode : Mode) (b : UInt8) (justEscaped : Bool) : State × List Char :=
  if b = 0x1b then (⟨mode, .escape, justEscaped⟩, [])
  else if mode = .kanji ∧ isGraphic b then (⟨mode, .lead b, false⟩, [])
  else (⟨mode, .none, false⟩, [(single? mode b).getD replacement])

def second (mode : Mode) (lead b : UInt8) (justEscaped : Bool) : State × List Char :=
  if b = 0x1b then (⟨mode, .escape, justEscaped⟩, [replacement])
  else if isGraphic b then
    let c := Index.jis0208.char? ((lead.toNat - 0x21) * 94 + (b.toNat - 0x21))
    (⟨mode, .none, justEscaped⟩, [c.getD replacement])
  else (⟨mode, .none, justEscaped⟩, [replacement])

def escaped? (a b : UInt8) : Option Mode :=
  match a, b with
  | 0x28, 0x42 => some .ascii
  | 0x28, 0x4a => some .roman
  | 0x28, 0x49 => some .katakana
  | 0x24, 0x40 => some .kanji
  | 0x24, 0x42 => some .kanji
  | _, _ => none

def step : State → UInt8 → State × List Char
  -- what follows an escape character that begins no escape is read again
  | ⟨mode, .none, justEscaped⟩, b => first mode b justEscaped
  | ⟨mode, .lead a, justEscaped⟩, b => second mode a b justEscaped
  | ⟨mode, .escape, justEscaped⟩, b =>
    if b = 0x24 ∨ b = 0x28 then (⟨mode, .escapeWith b, justEscaped⟩, [])
    else
      let (next, more) := first mode b false
      (next, replacement :: more)
  | ⟨mode, .escapeWith a, justEscaped⟩, b =>
    match escaped? a b with
    | some chosen => (⟨chosen, .none, true⟩, if justEscaped then [replacement] else [])
    | none =>
      let (between, more) := first mode a false
      let (next, most) := match between.pending with
        | .lead a => second mode a b false
        | _ => first mode b false
      (next, replacement :: more ++ most)

def finish : State → List Char
  | ⟨_, .none, _⟩ => []
  | ⟨mode, .escapeWith a, _⟩ =>
    replacement :: if mode = .kanji then [replacement] else [(single? mode a).getD replacement]
  | _ => [replacement]

def reading : Reading State where
  start := ⟨.ascii, .none, false⟩
  step := step
  finish := finish

end Iso2022Jp

end ResumableUpload.Text.Charset
