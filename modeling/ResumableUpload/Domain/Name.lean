import ResumableUpload.Domain.Label
import ResumableUpload.Text.Blank
import ResumableUpload.Text.Split

/-! Domain names, as they are written with the characters of ASCII. -/

namespace ResumableUpload.Domain.Name

open Text

def labels (cs : List Char) : List (List Char) := splitBy (· = '.') cs

def join (labels : List (List Char)) : String := ".".intercalate (labels.map String.ofList)

def isPlain (cs : List Char) : Bool :=
  cs.all Punycode.isBasic && (labels cs).all fun label => (label.take 4).map Char.toLower ≠ "xn--".toList

def read? (cs : List Char) : Option (List (List Char)) := do
  let found ← (labels (Canonical.compose (← Mapping.map? cs))).mapM Label.read?
  guard (found.all Label.isValid)
  guard (!found.any runsRightToLeft || found.all fun label => Direction.isConsistent (label.map Direction.ofChar))
  return found

def toAscii? (name : String) : Option String := do
  let cs := name.toList
  if isPlain cs then
    guard (!cs.any Label.isForbidden)
    return lower name
  else return join (← (← read? cs).mapM Label.write?)

end ResumableUpload.Domain.Name
