import ResumableUpload.Json.Basic
import ResumableUpload.Text.Hex

/-! The text of a JSON document, without blanks. -/

namespace ResumableUpload.Json.Writer

def decimal (n : Nat) : List Char := Nat.toDigits 10 n

def integer : Int → List Char
  | .ofNat n => decimal n
  | .negSucc n => '-' :: decimal (n + 1)

def number (n : Number) : List Char :=
  (if n.negative then ['-'] else []) ++ decimal n.whole ++
    (if n.fraction = [] then [] else '.' :: n.fraction.map fun d => Text.Hex.digit d.val) ++
    match n.exponent with
    | none => []
    | some e => 'e' :: integer e

def escape (c : Char) : List Char :=
  if c = '"' then ['\\', '"']
  else if c = '\\' then ['\\', '\\']
  else if c = '\n' then ['\\', 'n']
  else if c = '\r' then ['\\', 'r']
  else if c = '\t' then ['\\', 't']
  else if c = '\x08' then ['\\', 'b']
  else if c = '\x0c' then ['\\', 'f']
  else if c.toNat < 0x20 then
    ['\\', 'u', '0', '0', Text.Hex.digit (c.toNat / 16), Text.Hex.digit (c.toNat % 16)]
  else [c]

def text (s : String) : List Char := '"' :: s.toList.flatMap escape ++ ['"']

def value : Json → List Char
  | .null => "null".toList
  | .bool true => "true".toList
  | .bool false => "false".toList
  | .number n => number n
  | .string s => text s
  | .array [] => ['[', ']']
  | .array (item :: rest) => '[' :: value item ++ moreItems rest
  | .object [] => ['{', '}']
  | .object ((name, v) :: rest) => '{' :: text name ++ ':' :: value v ++ moreMembers rest
  | .unreadable => "\"\\ud800\"".toList
where
  moreItems : List Json → List Char
    | [] => [']']
    | item :: rest => ',' :: value item ++ moreItems rest
  moreMembers : List (String × Json) → List Char
    | [] => ['}']
    | (name, v) :: rest => ',' :: text name ++ ':' :: value v ++ moreMembers rest

end Writer

def write (j : Json) : String := String.ofList (Writer.value j)

end ResumableUpload.Json
