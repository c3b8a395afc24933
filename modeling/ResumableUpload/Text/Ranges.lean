import ResumableUpload.Text.Hex

/-! Sets of characters given by ascending ranges of code points. -/

namespace ResumableUpload.Text

abbrev Ranges := Array (Nat × Nat)

namespace Ranges

def search (ranges : Ranges) (n low count : Nat) : Bool :=
  if _h : count = 0 then false
  else
    let middle := low + count / 2
    let (first, last) := ranges.getD middle (1, 0)
    if n < first then search ranges n low (count / 2)
    else if last < n then search ranges n (middle + 1) (count - count / 2 - 1)
    else true
termination_by count
decreasing_by all_goals omega

def has (ranges : Ranges) (c : Char) : Bool := ranges.search c.toNat 0 ranges.size

def number (digits : String) : Nat :=
  digits.toList.foldl (fun n c => n * 16 + ((Hex.digitValue? c.toNat.toUInt8).getD 0).toNat) 0

def ofText (s : String) : Ranges :=
  let words := ((s.replace "\n" " ").splitOn " ").filter (· ≠ "")
  (words.map fun word =>
    match word.splitOn "-" with
    | [first, last] => (number first, number last)
    | _ => (number word, number word)).toArray

end Ranges

end ResumableUpload.Text
