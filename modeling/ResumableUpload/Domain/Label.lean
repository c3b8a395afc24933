import ResumableUpload.Domain.Direction
import ResumableUpload.Domain.Joining
import ResumableUpload.Domain.Mapping
import ResumableUpload.Text.Punycode

/-! The labels of a domain name, between its dots. -/

namespace ResumableUpload.Domain.Label

open Text

def isForbidden (c : Char) : Bool := c.toNat ≤ 0x20 || c.toNat = 0x7f || "%#/:<>?@[\\]^|".toList.contains c

def longestEncoded : Nat := 2000

def longestWritten : Nat := 1000

def read? : List Char → Option (List Char)
  | 'x' :: 'n' :: '-' :: '-' :: encoded => do
    guard (encoded.length ≤ longestEncoded)
    let cs ← Punycode.decode? encoded
    guard (!cs.all Punycode.isBasic && cs.all Mapping.isFixed && Canonical.compose cs = cs)
    return cs
  | cs => some cs

def isValid (cs : List Char) : Bool := !cs.any isForbidden && !cs.head?.any isMark && Joining.fits [] cs

def write? (cs : List Char) : Option (List Char) :=
  if cs.all Punycode.isBasic then some cs
  else if cs.length ≤ longestWritten then some ("xn--".toList ++ Punycode.encode cs)
  else none

end ResumableUpload.Domain.Label
