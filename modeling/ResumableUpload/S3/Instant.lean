/-! Moments in time, and their text as a date and a time of day in UTC. -/

namespace ResumableUpload.S3

structure Instant where
  seconds : Int
  nanoseconds : Nat
deriving DecidableEq, Repr

namespace Instant

def le (x y : Instant) : Bool :=
  x.seconds < y.seconds || (x.seconds = y.seconds && x.nanoseconds ≤ y.nanoseconds)

def days (year month day : Int) : Int :=
  let y := if month ≤ 2 then year - 1 else year
  let m := (month + 9) % 12
  365 * y + y / 4 - y / 100 + y / 400 + (153 * m + 2) / 5 + day - 1 - 719468

def digits? (count : Nat) (cs : List Char) : Option (Int × List Char) :=
  let front := cs.take count
  if front.length = count ∧ front.all Char.isDigit
  then some ((Nat.ofDigitChars 10 front 0 : Nat), cs.drop count) else none

def mark? (c : Char) : List Char → Option (List Char)
  | d :: rest => if d = c then some rest else none
  | [] => none

def fraction (cs : List Char) : Nat := Nat.ofDigitChars 10 ((cs ++ List.replicate 9 '0').take 9) 0

def read? (s : String) : Option Instant := do
  let (year, cs) ← digits? 4 s.toList
  let (month, cs) ← digits? 2 (← mark? '-' cs)
  let (day, cs) ← digits? 2 (← mark? '-' cs)
  let (hour, cs) ← digits? 2 (← mark? 'T' cs)
  let (minute, cs) ← digits? 2 (← mark? ':' cs)
  let (second, cs) ← digits? 2 (← mark? ':' cs)
  guard (1 ≤ month ∧ month ≤ 12 ∧ 1 ≤ day ∧ day ≤ 31 ∧ hour < 24 ∧ minute < 60 ∧ second ≤ 60)
  let seconds := ((days year month day * 24 + hour) * 60 + minute) * 60 + second
  match cs with
  | ['Z'] => return ⟨seconds, 0⟩
  | '.' :: rest => do
    let places := rest.takeWhile Char.isDigit
    guard (places ≠ [] ∧ rest.dropWhile Char.isDigit = ['Z'])
    return ⟨seconds, fraction places⟩
  | _ => none

end Instant

end ResumableUpload.S3
