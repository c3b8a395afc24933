import ResumableUpload.Json.Writer

/-! The text of a document as it is shown in messages: names in order, and numbers that are no 64-bit
integers with the fewest digits that read back. -/

namespace ResumableUpload.Json.Display

structure Binary where
  m : Nat
  q : Int
deriving DecidableEq, Repr

def leadingBit : Nat := 0x10000000000000

def Binary.ofFloat (x : Float) : Binary :=
  let bits := x.toBits.toNat
  let exponent : Nat := bits / leadingBit % 0x800
  let fraction : Nat := bits % leadingBit
  if exponent = 0 then ⟨fraction, -1074⟩ else ⟨leadingBit + fraction, (exponent : Int) - 1075⟩

structure Ratio where
  num : Nat
  den : Nat

def Ratio.scaled (n base : Nat) (power : Int) : Ratio :=
  match power with
  | .ofNat k => ⟨n * base.pow k, 1⟩
  | .negSucc k => ⟨n, base.pow (k + 1)⟩

def Ratio.lt (x y : Ratio) : Bool := x.num * y.den < y.num * x.den

def Ratio.le (x y : Ratio) : Bool := x.num * y.den ≤ y.num * x.den

def readsBack (b : Binary) (x : Ratio) : Bool :=
  -- whether a number reads back as `b`: it is nearer to `b` than to the numbers beside it, where a tie goes to the
  -- even significand
  let above := Ratio.scaled (4 * b.m + 2) 2 (b.q - 2)
  let below := Ratio.scaled (4 * b.m - if b.m = leadingBit ∧ -1074 < b.q then 1 else 2) 2 (b.q - 2)
  if b.m % 2 = 0 then below.le x && x.le above else below.lt x && x.lt above

def magnitude (b : Binary) : Int :=
  let x := Ratio.scaled b.m 2 b.q
  let powers : List Int := (List.range 640).map fun k => (k : Nat) - 325
  (powers.find? fun k => x.lt (.scaled 1 10 k)).getD 0

def onGrid? (b : Binary) (power : Int) : Option Nat :=
  -- the digits on the grid of a power of ten that read back, the nearer ones of two, and of two equally near the even
  -- ones
  let x := Ratio.scaled b.m 2 b.q
  let unit := Ratio.scaled 1 10 power
  let low := x.num * unit.den / (x.den * unit.num)
  let grid (n : Nat) : Ratio := ⟨n * unit.num, unit.den⟩
  let middle : Ratio := ⟨(2 * low + 1) * unit.num, 2 * unit.den⟩
  let nearer := if x.lt middle || (x.le middle && low % 2 = 0) then [low, low + 1] else [low + 1, low]
  nearer.find? fun n => 0 < n && readsBack b (grid n)

def shortest (b : Binary) : Nat × Int :=
  let top := magnitude b
  let powers : List Int := (List.range 17).map fun n => top - (n + 1 : Nat)
  (powers.findSome? fun power => (onGrid? b power).map (·, power)).getD (0, 0)

def positive (x : Float) : List Char :=
  let (n, power) := shortest (.ofFloat x)
  let digits := Writer.decimal n
  let count : Int := digits.length
  let point := count + power
  let zeros (k : Int) : List Char := List.replicate k.toNat '0'
  if 0 ≤ power ∧ point ≤ 16 then digits ++ zeros power ++ ['.', '0']
  else if 0 < point ∧ point ≤ 16 then digits.take point.toNat ++ '.' :: digits.drop point.toNat
  else if -5 < point ∧ point ≤ 0 then '0' :: '.' :: zeros (-point) ++ digits
  else
    let exponent := point - 1
    let mark := 'e' :: (if 0 ≤ exponent then ['+'] else []) ++ Writer.integer exponent
    match digits with
    | [d] => d :: mark
    | d :: more => d :: '.' :: more ++ mark
    | [] => []

def powerOfTen (k : Nat) : Float := Float.ofScientific 1 false k

def scale (fuel : Nat) (x : Float) (power : Int) : Option Float :=
  -- a significand times a power of ten, by one multiplication or division where the power has a place in double
  -- precision, and by several divisions below that
  match fuel with
  | 0 => some x
  | fuel + 1 =>
    if 0 ≤ power then
      if 308 < power then (if x == 0.0 then some x else none)
      else let y := x * powerOfTen power.toNat; if y.isInf then none else some y
    else if -308 ≤ power then some (x / powerOfTen power.natAbs)
    else if x == 0.0 then some x
    else scale fuel (x / powerOfTen 308) (power + 308)

def significand (digits : List Nat) : Nat × Nat :=
  digits.foldl (fun (n, dropped) d =>
    if dropped = 0 ∧ n * 10 + d < UInt64.size then (n * 10 + d, 0) else (n, dropped + 1)) (0, 0)

def toFloat? (n : Number) : Option Float :=
  let whole := (Writer.decimal n.whole).map fun c => c.toNat - 0x30
  let (m, dropped) := significand (whole ++ n.fraction.map (·.val))
  let power : Int := n.exponent.getD 0 - (n.fraction.length : Nat) + (dropped : Nat)
  scale (power.natAbs + 1) m.toUInt64.toFloat power

def float (n : Number) : Option (List Char) := do
  let x ← toFloat? n
  let sign := if n.negative then ['-'] else []
  return sign ++ if x == 0.0 then ['0', '.', '0'] else positive x

def number (n : Number) : Option (List Char) :=
  if n.fraction ≠ [] ∨ n.exponent.isSome then float n
  else if n.negative then
    if 0 < n.whole ∧ n.whole ≤ 0x8000000000000000 then some ('-' :: Writer.decimal n.whole) else float n
  else if n.whole < UInt64.size then some (Writer.decimal n.whole) else float n

def ordered (members : List (String × α)) : List (String × α) :=
  let latest := members.foldr (fun m kept => if kept.any (·.1 = m.1) then kept else m :: kept) []
  latest.mergeSort fun a b => a.1 ≤ b.1

def commas : List (List Char) → List Char
  | [] => []
  | [one] => one
  | one :: rest => one ++ ',' :: commas rest

def value? : Json → Option (List Char)
  | .number n => number n
  | .array items => (items? items).map fun texts => '[' :: commas texts ++ [']']
  | .object members => (members? members).map fun texts =>
    '\x7b' :: commas ((ordered texts).map fun (name, v) => Writer.text name ++ ':' :: v) ++ ['\x7d']
  | .unreadable => none
  | j => some (Writer.value j)
where
  items? : List Json → Option (List (List Char))
    | [] => some []
    | item :: rest => do return (← value? item) :: (← items? rest)
  members? : List (String × Json) → Option (List (String × List Char))
    | [] => some []
    | (name, v) :: rest => do return (name, ← value? v) :: (← members? rest)

end Display

def display? (j : Json) : Option String := (Display.value? j).map String.ofList

end ResumableUpload.Json
