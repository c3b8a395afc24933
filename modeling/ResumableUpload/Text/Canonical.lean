import ResumableUpload.Text.Canonical.Table

/-! The composed canonical form: marks in the order of their classes, each composed with what it can be. -/

namespace ResumableUpload.Text.Canonical

def pairsOf : List Char → List (Char × Char)
  | a :: c :: rest => (a, c) :: pairsOf rest
  | _ => []

def compositions : List (Char × List (Char × Char)) :=
  compositionTexts.map fun (second, text) => (second, pairsOf (text.toList.filter (· ≠ '\n')))

def decompositions : Array (Char × Char × Char) :=
  let all := compositions.flatMap fun (second, pairs) => pairs.map fun (first, c) => (c, first, second)
  (all.mergeSort fun a b => a.1.toNat ≤ b.1.toNat).toArray

def combiningClass (c : Char) : Nat :=
  if c.toNat < 0x300 then 0 else ((classes.find? fun (_, ranges) => ranges.has c).map (·.1)).getD 0

def isSyllable (c : Char) : Bool := 0xac00 ≤ c.toNat && c.toNat < 0xac00 + 11172

def composeHangul? (a b : Char) : Option Char :=
  let lead := a.toNat - 0x1100
  let vowel := b.toNat - 0x1161
  let trail := b.toNat - 0x11a7
  if 0x1100 ≤ a.toNat ∧ lead < 19 ∧ 0x1161 ≤ b.toNat ∧ vowel < 21 then
    some (Char.ofNat (0xac00 + (lead * 21 + vowel) * 28))
  else if isSyllable a ∧ (a.toNat - 0xac00) % 28 = 0 ∧ 0x11a7 < b.toNat ∧ trail < 28 then
    some (Char.ofNat (a.toNat + trail))
  else none

def decomposeHangul (c : Char) : List Char :=
  let n := c.toNat - 0xac00
  let trail := if n % 28 = 0 then [] else [Char.ofNat (0x11a7 + n % 28)]
  Char.ofNat (0x1100 + n / 588) :: Char.ofNat (0x1161 + n % 588 / 28) :: trail

def search? (table : Array (Char × Char × Char)) (n low count : Nat) : Option (Char × Char) :=
  -- the entry of a character, among `count` ordered ones from `low` on
  if _h : count = 0 then none
  else
    let middle := low + count / 2
    let (c, parts) := table.getD middle ('\x00', '\x00', '\x00')
    if n < c.toNat then search? table n low (count / 2)
    else if c.toNat < n then search? table n (middle + 1) (count - count / 2 - 1)
    else some parts
termination_by count
decreasing_by all_goals omega

def decomposeBy (table : Array (Char × Char × Char)) : Nat → Char → List Char
  -- a table of decompositions applied again and again, at most `depth` times
  | 0, c => [c]
  | depth + 1, c =>
    match search? table c.toNat 0 table.size with
    | some (first, second) => decomposeBy table depth first ++ [second]
    | none => [c]

def decompose (c : Char) : List Char :=
  if c.toNat < 0xc0 then [c] else if isSyllable c then decomposeHangul c else decomposeBy decompositions 3 c

def insertMark (c : Char) (k : Nat) : List (Char × Nat) → List (Char × Nat)
  -- puts a mark behind those before it that are not of a higher class; the marks stand last first
  | [] => [(c, k)]
  | (d, m) :: rest => if k < m then (d, m) :: insertMark c k rest else (c, k) :: (d, m) :: rest

def order (marks : List (Char × Nat)) : List Char → List (Char × Nat)
  -- goes through decomposed characters; `marks` are those since the last one of class zero, last first
  | [] => marks.reverse
  | c :: rest =>
    let k := combiningClass c
    if k = 0 then marks.reverse ++ (c, 0) :: order [] rest else order (insertMark c k marks) rest

def composePair? (a b : Char) : Option Char :=
  composeHangul? a b <|> (compositions.lookup b).bind (·.lookup a)

def recompose (start : Char) (kept : List (Char × Nat)) : List (Char × Nat) → List Char
  -- goes through ordered characters. `kept` are those since `start` that did not compose with it, last first; a
  -- character reaches `start` if none of a class as high as its own is kept between them
  | [] => start :: (kept.reverse.map (·.1))
  | (c, k) :: rest =>
    let reaches := match kept with
      | [] => true
      | (_, last) :: _ => last < k
    match if reaches then composePair? start c else none with
    | some composed => recompose composed kept rest
    | none =>
      if k = 0 then start :: (kept.reverse.map (·.1)) ++ recompose c [] rest
      else recompose start ((c, k) :: kept) rest

def recomposeAll : List (Char × Nat) → List Char
  | [] => []
  | (c, k) :: rest => if k = 0 then recompose c [] rest else c :: recomposeAll rest

def compose (cs : List Char) : List Char := recomposeAll (order [] (cs.flatMap decompose))

end ResumableUpload.Text.Canonical
