import ResumableUpload.Text.Blank
import ResumableUpload.Text.Charset

/-! Media types as a header names them: a type, a subtype and parameters. -/

namespace ResumableUpload.Http

structure MediaType where
  main : String
  sub : String
  parameters : List (String × String)
deriving DecidableEq, Repr

namespace MediaType

def isTokenChar (c : Char) : Bool := c.isAlphanum || "!#$%&'*+-.^_`|~".toList.contains c

def isQuotedChar (c : Char) : Bool := 31 < c.toNat && c.toNat ≠ 127

def quoted? : List Char → Option (List Char × List Char)
  | [] => none
  | first :: rest =>
    let inner := rest.takeWhile fun c => isQuotedChar c && c ≠ '"'
    match rest.dropWhile fun c => isQuotedChar c && c ≠ '"' with
    | '"' :: after => if isQuotedChar first then some (first :: inner, after) else none
    | _ => none

def value? : List Char → Option (List Char × List Char)
  | '"' :: rest => (quoted? rest).map fun (value, rest) => (value, rest.dropWhile (· = ' '))
  | rest =>
    if rest ≠ [] ∧ rest.takeWhile isTokenChar = [] then none
    else some (rest.takeWhile isTokenChar, rest.dropWhile isTokenChar)

def parameters? : Nat → List Char → Option (List (String × String))
  | _, [] => some []
  | 0, _ => none
  | fuel + 1, ' ' :: rest => parameters? fuel rest
  | fuel + 1, cs =>
    let name := cs.takeWhile isTokenChar
    match cs.dropWhile isTokenChar with
    | '=' :: rest => do
      guard (name ≠ [])
      let (value, rest) ← value? rest
      let parameter := (Text.lower (String.ofList name), String.ofList value)
      match rest with
      | [] => return [parameter]
      | ';' :: rest => return parameter :: (← parameters? fuel rest)
      | _ => none
    | _ => none

def withoutSuffix (sub : List Char) : List Char :=
  match sub with
  | [] => []
  | first :: rest =>
    if rest.contains '+' then first :: (rest.reverse.dropWhile (· ≠ '+')).tail.reverse else sub

def read? (s : String) : Option MediaType := do
  let cs := s.toList
  let main := cs.takeWhile isTokenChar
  guard (main ≠ [])
  match cs.dropWhile isTokenChar with
  | '/' :: rest => do
    let sub := rest.takeWhile isTokenChar
    let parameters ← match rest.dropWhile isTokenChar with
      | [] => some []
      | ';' :: rest => do
        guard (sub ≠ [])
        parameters? (rest.length + 1) rest
      | _ => none
    return {
      main := Text.lower (String.ofList main)
      sub := Text.lower (String.ofList (withoutSuffix sub))
      parameters }
  | _ => none

def parameter? (t : MediaType) (name : String) : Option String := (t.parameters.find? (·.1 = name)).map (·.2)

def boundary? (s : String) : Option String := do
  let t ← read? s
  guard (t.main = "multipart" ∧ t.sub = "form-data")
  t.parameter? "boundary"

def charset (s : String) : Text.Charset :=
  (((read? s).bind (·.parameter? "charset")).bind Text.Charset.ofLabel?).getD .utf8

end MediaType

end ResumableUpload.Http
