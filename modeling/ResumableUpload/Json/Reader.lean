import ResumableUpload.Json.Basic

/-! Reading a JSON document from its text. -/

namespace ResumableUpload.Json.Reader

def isSpace (c : Char) : Bool := c = ' ' || c = '\n' || c = '\t' || c = '\r'

def skip (cs : List Char) : List Char := cs.dropWhile isSpace

inductive Piece
  | char (c : Char)
  | unit (n : Nat)
deriving DecidableEq, Repr

def escaped? : Char → Option Char
  | '"' => some '"'
  | '\\' => some '\\'
  | '/' => some '/'
  | 'b' => some '\x08'
  | 'f' => some '\x0c'
  | 'n' => some '\n'
  | 'r' => some '\r'
  | 't' => some '\t'
  | _ => none

def hexValue? (c : Char) : Option Nat :=
  if '0' ≤ c ∧ c ≤ '9' then some (c.toNat - 0x30)
  else if 'a' ≤ c ∧ c ≤ 'f' then some (c.toNat - 0x57)
  else if 'A' ≤ c ∧ c ≤ 'F' then some (c.toNat - 0x37)
  else none

def hexUnit? (a b c d : Char) : Option Nat := do
  return (((← hexValue? a) * 16 + (← hexValue? b)) * 16 + (← hexValue? c)) * 16 + (← hexValue? d)

def pieces : List Char → Option (List Piece × List Char)
  | [] => none
  | '"' :: rest => some ([], rest)
  | '\\' :: 'u' :: a :: b :: c :: d :: rest => do
    let n ← hexUnit? a b c d
    let (more, after) ← pieces rest
    return (.unit n :: more, after)
  | '\\' :: c :: rest => do
    let e ← escaped? c
    let (more, after) ← pieces rest
    return (.char e :: more, after)
  | c :: rest =>
    if c = '\\' ∨ c.toNat < 0x20 then none
    else do
      let (more, after) ← pieces rest
      return (.char c :: more, after)

def characters : List Piece → Option (List Char)
  -- a high surrogate takes the low one after it; no surrogate stands alone
  | [] => some []
  | .char c :: rest => (characters rest).map (c :: ·)
  | .unit n :: rest =>
    if 0xd800 ≤ n ∧ n < 0xdc00 then
      match rest with
      | .unit low :: rest =>
        if 0xdc00 ≤ low ∧ low < 0xe000 then
          (characters rest).map (Char.ofNat (0x10000 + (n - 0xd800) * 0x400 + (low - 0xdc00)) :: ·)
        else none
      | _ => none
    else if 0xdc00 ≤ n ∧ n < 0xe000 then none
    else (characters rest).map (Char.ofNat n :: ·)

def text? (cs : List Char) : Option (Option String × List Char) := do
  let (found, rest) ← pieces cs
  return ((characters found).map String.ofList, rest)

def digitsValue (cs : List Char) : Nat := Nat.ofDigitChars 10 cs 0

def isDigit (c : Char) : Bool := '0' ≤ c && c ≤ '9'

def digitOf (c : Char) : Fin 10 := Fin.ofNat 10 (c.toNat - 0x30)

def exponent? (cs : List Char) : Option (Int × List Char) :=
  let (negative, digits) := match cs with
    | '-' :: rest => (true, rest)
    | '+' :: rest => (false, rest)
    | _ => (false, cs)
  let n : Int := digitsValue (digits.takeWhile isDigit)
  if digits.takeWhile isDigit = [] then none
  else some (if negative then -n else n, digits.dropWhile isDigit)

def number? (cs : List Char) : Option (Number × List Char) := do
  let (negative, cs) := match cs with
    | '-' :: rest => (true, rest)
    | _ => (false, cs)
  let whole := cs.takeWhile isDigit
  let cs := cs.dropWhile isDigit
  guard (whole ≠ [] ∧ (whole.head? = some '0' → whole.length = 1))
  let (fraction, cs) ← match cs with
    | '.' :: rest =>
      if rest.takeWhile isDigit = [] then none
      else some ((rest.takeWhile isDigit).map digitOf, rest.dropWhile isDigit)
    | _ => some ([], cs)
  let (exponent, cs) ← match cs with
    | 'e' :: rest => (exponent? rest).map fun (e, rest) => (some e, rest)
    | 'E' :: rest => (exponent? rest).map fun (e, rest) => (some e, rest)
    | _ => some (none, cs)
  return (⟨negative, digitsValue whole, fraction, exponent⟩, cs)

def ofText : Option String → Json
  | some s => .string s
  | none => .unreadable

def ofMembers : Option (List (String × Json)) → Json
  | some members => .object members
  | none => .unreadable

mutual

def value? : Nat → List Char → Option (Json × List Char)
  | 0, _ => none
  | fuel + 1, cs =>
    match skip cs with
    | 'n' :: 'u' :: 'l' :: 'l' :: rest => some (.null, rest)
    | 't' :: 'r' :: 'u' :: 'e' :: rest => some (.bool true, rest)
    | 'f' :: 'a' :: 'l' :: 's' :: 'e' :: rest => some (.bool false, rest)
    | '"' :: rest => (text? rest).map fun (s, rest) => (ofText s, rest)
    | '[' :: rest =>
      match skip rest with
      | ']' :: rest => some (.array [], rest)
      | rest => (items? fuel rest).map fun (items, rest) => (.array items, rest)
    | '{' :: rest =>
      match skip rest with
      | '}' :: rest => some (.object [], rest)
      | rest => (members? fuel rest).map fun (members, rest) => (ofMembers members, rest)
    | rest => (number? rest).map fun (n, rest) => (.number n, rest)

def items? : Nat → List Char → Option (List Json × List Char)
  | 0, _ => none
  | fuel + 1, cs => do
    let (item, rest) ← value? fuel cs
    match skip rest with
    | ',' :: rest => do
      let (more, rest) ← items? fuel rest
      return (item :: more, rest)
    | ']' :: rest => return ([item], rest)
    | _ => none

def members? : Nat → List Char → Option (Option (List (String × Json)) × List Char)
  | 0, _ => none
  | fuel + 1, cs =>
    match skip cs with
    | '"' :: rest => do
      let (name, rest) ← text? rest
      match skip rest with
      | ':' :: rest => do
        let (v, rest) ← value? fuel rest
        let member := name.map (·, v)
        match skip rest with
        | ',' :: rest => do
          let (more, rest) ← members? fuel rest
          return ((do return (← member) :: (← more)), rest)
        | '}' :: rest => return (member.map ([·]), rest)
        | _ => none
      | _ => none
    | _ => none

end

end Reader

def read? (s : String) : Option Json := do
  let cs := s.toList
  let (j, rest) ← Reader.value? (2 * cs.length + 2) cs
  if Reader.skip rest = [] then some j else none

end ResumableUpload.Json
