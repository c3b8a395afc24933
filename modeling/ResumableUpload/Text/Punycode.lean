/-! Punycode: text written with letters, digits and hyphens of ASCII. -/

namespace ResumableUpload.Text.Punycode

def digitChar (n : Nat) : Char := if n < 26 then Char.ofNat (0x61 + n) else Char.ofNat (0x30 + (n - 26))

def digitValue? (c : Char) : Option Nat :=
  if c.isLower then some (c.toNat - 0x61)
  else if c.isUpper then some (c.toNat - 0x41)
  else if c.isDigit then some (c.toNat - 0x30 + 26)
  else none

def threshold (place bias : Nat) : Nat := if place ≤ bias then 1 else min 26 (place - bias)

def settle (delta k : Nat) : Nat :=
  if 455 < delta then settle (delta / 35) (k + 36) else k + 36 * delta / (delta + 38)
termination_by delta

def adapt (delta count : Nat) (isFirst : Bool) : Nat :=
  let delta := if isFirst then delta / 700 else delta / 2
  settle (delta + delta / count) 0

def isBasic (c : Char) : Bool := c.toNat < 0x80

def writeNumber (bias place n : Nat) : List Char :=
  let t := threshold place bias
  if n < t ∨ t = 0 then [digitChar n]
  else digitChar (t + (n - t) % (36 - t)) :: writeNumber bias (place + 36) ((n - t) / (36 - t))
termination_by n
decreasing_by
  have : (n - threshold place bias) / (36 - threshold place bias) ≤ n - threshold place bias := Nat.div_le_self _ _
  omega

structure Progress where
  written : List Char
  delta : Nat
  bias : Nat
  done : Nat

def writePoint (basics n : Nat) (p : Progress) (c : Char) : Progress :=
  if c.toNat < n then { p with delta := p.delta + 1 }
  else if c.toNat = n then
    ⟨p.written ++ writeNumber p.bias 36 p.delta, 0, adapt p.delta (p.done + 1) (p.done = basics), p.done + 1⟩
  else p

def writePoints (basics : Nat) (cs : List Char) (last : Nat) (p : Progress) : List Nat → List Char
  | [] => p.written
  | n :: rest =>
    let p := { p with delta := p.delta + (n - last) * (p.done + 1) }
    let p := cs.foldl (writePoint basics n) p
    writePoints basics cs (n + 1) { p with delta := p.delta + 1 } rest

def encode (cs : List Char) : List Char :=
  let basics := cs.filter isBasic
  let others := ((cs.filter (!isBasic ·)).map Char.toNat).eraseDups.mergeSort
  let head := if basics = [] then [] else basics ++ ['-']
  head ++ writePoints basics.length cs 128 ⟨[], 0, 72, basics.length⟩ others

def readNumber? (bias : Nat) (place weight n : Nat) : List Char → Option (Nat × List Char)
  | [] => none
  | c :: rest => do
    let digit ← digitValue? c
    let n := n + digit * weight
    let t := threshold place bias
    if digit < t then some (n, rest) else readNumber? bias (place + 36) (weight * (36 - t)) n rest

def readPoints? (fuel : Nat) (point place bias : Nat) (isFirst : Bool) (cs digits : List Char) :
    Option (List Char) :=
  match fuel, digits with
  | _, [] => some cs
  | 0, _ => none
  | fuel + 1, _ => do
    let (step, rest) ← readNumber? bias 36 1 0 digits
    let count := cs.length + 1
    let point := point + (place + step) / count
    let place := (place + step) % count
    guard (point.isValidChar)
    readPoints? fuel point (place + 1) (adapt step count isFirst) false (cs.insertIdx place (Char.ofNat point)) rest

def decode? (cs : List Char) : Option (List Char) :=
  let digits := (cs.reverse.takeWhile (· ≠ '-')).reverse
  let basics := cs.take (cs.length - digits.length - 1)
  if !basics.all isBasic then none
  else if basics = [] then readPoints? cs.length 128 0 72 true [] cs
  else readPoints? digits.length 128 0 72 true basics digits

end ResumableUpload.Text.Punycode
