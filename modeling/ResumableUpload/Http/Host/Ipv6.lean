import ResumableUpload.Http.Host.Ipv4
import ResumableUpload.Text.Split

/-! Addresses of eight groups of sixteen bits, in which one run of zeros may be left out. -/

namespace ResumableUpload.Http.Ipv6

open Text

def splitGap : List Char → List Char × Option (List Char)
  | [] => ([], none)
  | ':' :: ':' :: rest => ([], some rest)
  | c :: rest =>
    let (before, after) := splitGap rest
    (c :: before, after)

def group? (cs : List Char) : Option Nat := if cs = [] ∨ 4 < cs.length then none else Ipv4.ofDigits? 16 cs

def byte? (cs : List Char) : Option Nat := do
  guard (Ipv4.isDecimal cs && (cs.length = 1 || cs.head? ≠ some '0') && cs.length ≤ 3)
  let n ← Ipv4.ofDigits? 10 cs
  if n < 0x100 then some n else none

def dotted? (cs : List Char) : Option (List Nat) :=
  match (splitBy (· = '.') cs).mapM byte? with
  | some [a, b, c, d] => some [a * 0x100 + b, c * 0x100 + d]
  | _ => none

def groups? (cs : List Char) (isEnd : Bool) : Option (List Nat) :=
  if cs = [] then some []
  else
    let parts := splitBy (· = ':') cs
    match isEnd, parts.getLast? with
    | true, some last =>
      if last.contains '.' then do return (← parts.dropLast.mapM group?) ++ (← dotted? last)
      else parts.mapM group?
    | _, _ => parts.mapM group?

def read? (cs : List Char) : Option (List Nat) := do
  match splitGap cs with
  | (_, none) => do
    let groups ← groups? cs true
    if groups.length = 8 then some groups else none
  | (before, some after) => do
    let before ← groups? before false
    let after ← groups? after true
    if before.length + after.length < 8 then
      some (before ++ List.replicate (8 - before.length - after.length) 0 ++ after)
    else none

def zerosAt (groups : List Nat) (i : Nat) : Nat := ((groups.drop i).takeWhile (· = 0)).length

def longestZeros (groups : List Nat) : Nat × Nat :=
  (List.range groups.length).foldl (fun (start, count) i =>
    if count < zerosAt groups i then (i, zerosAt groups i) else (start, count)) (0, 0)

def joined (groups : List Nat) : String :=
  ":".intercalate (groups.map fun n => String.ofList (Nat.toDigits 16 n))

def text (groups : List Nat) : String :=
  let (start, count) := longestZeros groups
  if count < 2 then joined groups
  else joined (groups.take start) ++ "::" ++ joined (groups.drop (start + count))

end ResumableUpload.Http.Ipv6
