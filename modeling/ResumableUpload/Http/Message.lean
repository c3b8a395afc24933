import ResumableUpload.Bytes
import ResumableUpload.Text.Blank
import ResumableUpload.Text.Decimal

/-! HTTP requests as a server sees them. -/

namespace ResumableUpload.Http

structure Request where
  method : String
  target : String
  headers : List (String × String)
  body : Bytes

namespace Request

def header? (r : Request) (name : String) : Option String :=
  (r.headers.find? fun h => Text.lower h.1 = Text.lower name).map (·.2)

def isVisible (c : Char) : Bool := c = '\t' || (0x20 ≤ c.toNat && c.toNat < 0x7f)

def textHeader? (r : Request) (name : String) : Option String :=
  (r.header? name).filter fun value => value.toList.all isVisible

def isSchemeChar (c : Char) : Bool := c.isAlphanum || c = '+' || c = '-' || c = '.'

def afterHost? (target : List Char) : Option (List Char) :=
  match target.dropWhile isSchemeChar with
  | ':' :: '/' :: '/' :: rest => some (rest.dropWhile fun c => c ≠ '/' && c ≠ '?' && c ≠ '#')
  | _ => none

def upToQuery (cs : List Char) : String := String.ofList (cs.takeWhile fun c => c ≠ '?' && c ≠ '#')

def path (r : Request) : String :=
  match r.target.toList with
  | '/' :: rest => upToQuery ('/' :: rest)
  | cs =>
    match afterHost? cs with
    | some rest => let path := upToQuery rest; if path = "" then "/" else path
    | none => ""

def contentLength? (r : Request) : Option Nat :=
  (r.textHeader? "content-length").bind (Text.Decimal.read? UInt64.size)

end Request

end ResumableUpload.Http
