import ResumableUpload.Bytes

/-! Reading of characters from bytes that come one at a time. -/

namespace ResumableUpload.Text.Charset

structure Reading (State : Type) where
  start : State
  step : State → UInt8 → State × List Char
  finish : State → List Char

def replacement : Char := '\ufffd'

namespace Reading

def decode {State : Type} (r : Reading State) (b : Bytes) : String :=
  let (last, found) := b.octets.foldl (fun (state, found) octet =>
    let (next, more) := r.step state octet
    (next, more.reverse ++ found)) (r.start, [])
  String.ofList (found.reverse ++ r.finish last)

end Reading

def isAscii (b : UInt8) : Bool := b < 0x80

def asciiChar (b : UInt8) : Char := Char.ofNat b.toNat

structure Pairs where
  single? : UInt8 → Option Char
  isLead : UInt8 → Bool
  pair? : UInt8 → UInt8 → Option (List Char)

namespace Pairs

def first (p : Pairs) (b : UInt8) : Option UInt8 × List Char :=
  match p.single? b with
  | some c => (none, [c])
  | none => if p.isLead b then (some b, []) else (none, [replacement])

def second (p : Pairs) (lead b : UInt8) : Option UInt8 × List Char :=
  -- a pair that stands for nothing is replaced; an ASCII byte in it counts for itself
  match p.pair? lead b with
  | some cs => (none, cs)
  | none => (none, if isAscii b then [replacement, asciiChar b] else [replacement])

def reading (p : Pairs) : Reading (Option UInt8) where
  start := none
  step := fun
    | none, b => p.first b
    | some lead, b => p.second lead b
  finish := fun
    | none => []
    | some _ => [replacement]

end Pairs

end ResumableUpload.Text.Charset
