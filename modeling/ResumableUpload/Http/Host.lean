import ResumableUpload.Domain.Name
import ResumableUpload.Http.Host.Ipv6
import ResumableUpload.Text.Percent
import ResumableUpload.Text.Split
import ResumableUpload.Text.Utf8

/-! Hosts: names, and numeric addresses of either length. -/

namespace ResumableUpload.Http

inductive Host
  | name (text : String)
  | ipv4 (address : Nat)
  | ipv6 (groups : List Nat)
deriving DecidableEq, Repr

namespace Host

def text : Host → String
  | .name text => text
  | .ipv4 address => Ipv4.text address
  | .ipv6 groups => "[" ++ Ipv6.text groups ++ "]"

def bracketed? (cs : List Char) : Option Host :=
  if cs.getLast? = some ']' then (Ipv6.read? (cs.drop 1).dropLast).map .ipv6 else none

def read? (cs : List Char) : Option Host :=
  if cs.head? = some '[' then bracketed? cs
  else do
    let decoded ← Text.Utf8.decode? (.ofList (Text.Percent.decode (Text.Utf8.encode (String.ofList cs))))
    let name ← Domain.Name.toAscii? decoded
    let parts := Text.splitBy (· = '.') name.toList
    if name = "" then none
    else if Ipv4.endsInNumber parts then (Ipv4.read? parts).map .ipv4
    else some (.name name)

def isForbidden (c : Char) : Bool := "\x00\t\n\r #/:<>?@[\\]^|".toList.contains c

def readPlain? (cs : List Char) : Option Host :=
  if cs.head? = some '[' then bracketed? cs
  else if cs.any isForbidden then none
  else some (.name (Text.Percent.escape "" cs))

end Host

end ResumableUpload.Http
