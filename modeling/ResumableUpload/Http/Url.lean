import ResumableUpload.Http.Host
import ResumableUpload.Text.Blank

/-! Absolute addresses: how they are read, and how they are written once their parts are encoded. -/

namespace ResumableUpload.Http

open Text

structure Authority where
  username : String
  password : String
  host : Option Host
  port : Option Nat
deriving DecidableEq, Repr

structure Url where
  scheme : String
  authority : Option Authority
  path : String
  query : Option String
  fragment : Option String
deriving DecidableEq, Repr

namespace Authority

def empty : Authority := ⟨"", "", none, none⟩

def ofHost (host : Option Host) : Authority := ⟨"", "", host, none⟩

def hasCredentials (a : Authority) : Bool := a.username ≠ "" || a.password ≠ ""

def text (a : Authority) : String :=
  let password := if a.password = "" then "" else ":" ++ a.password
  let credentials := if a.hasCredentials then a.username ++ password ++ "@" else ""
  credentials ++ (a.host.map Host.text).getD "" ++ (a.port.map fun n => s!":{n}").getD ""

end Authority

namespace Url

def text (u : Url) : String :=
  -- a path that begins like an authority, where there is none, has a dot put in front
  let authority := match u.authority with
    | some a => "//" ++ a.text
    | none => if u.path.startsWith "//" then "/." else ""
  let query := (u.query.map ("?" ++ ·)).getD ""
  let fragment := (u.fragment.map ("#" ++ ·)).getD ""
  u.scheme ++ ":" ++ authority ++ u.path ++ query ++ fragment

def target (u : Url) : String := u.path ++ (u.query.map ("?" ++ ·)).getD ""

def host? (u : Url) : Option Host := u.authority.bind (·.host)

def isHttp (u : Url) : Bool := u.scheme = "http" || u.scheme = "https"

inductive Family
  | file
  | web (usualPort : Nat)
  | other
deriving DecidableEq, Repr

def families : List (String × Family) :=
  [("file", .file), ("http", .web 80), ("https", .web 443), ("ws", .web 80), ("wss", .web 443), ("ftp", .web 21)]

def familyOf (scheme : String) : Family := (families.lookup scheme).getD .other

def Family.usualPort? : Family → Option Nat
  | .web port => some port
  | _ => none

def portOrUsual? (u : Url) : Option Nat := (u.authority.bind (·.port)).or (familyOf u.scheme).usualPort?

def encodeSegment (cs : List Char) : String := Percent.escape " \"<>\x60\x7b\x7d" cs

def encodeQuery (family : Family) (cs : List Char) : String :=
  Percent.escape (if family = .other then " \"<>" else " \"<>'") cs

def encodeFragment (cs : List Char) : String := Percent.escape " \"<>\x60" cs

def encodeCredential (cs : List Char) : String := Percent.escape " \"#<>?\x60\x7b\x7d/:;=@[\\]^|" cs

def undot : List Char → List Char
  | '%' :: '2' :: c :: rest => if c = 'e' ∨ c = 'E' then '.' :: undot rest else '%' :: '2' :: c :: undot rest
  | c :: rest => c :: undot rest
  | [] => []

def isDot (segment : List Char) : Bool := undot segment = ['.']

def isDoubleDot (segment : List Char) : Bool := undot segment = ['.', '.']

def isDrive : List Char → Bool
  | [letter, mark] => letter.isAlpha && (mark = ':' || mark = '|')
  | _ => false

def parent : List (List Char) → List (List Char)
  | [] => []
  | last :: above => if isDrive last then last :: above else above

def driveOf (segment : List Char) : List (List Char) :=
  match segment with
  | [letter, _] => if isDrive segment then [[letter, ':']] else [segment]
  | letter :: ':' :: rest => if letter.isAlpha then [rest, [letter, ':']] else [segment]
  | _ => [segment]

def resolve (isFile : Bool) (above : List (List Char)) : List (List Char) → List (List Char)
  -- goes through the segments of a path: one dot stays where it is, two dots go up; the segments so far stand in
  -- `above`, last segment first
  | [] => above.reverse
  | segment :: rest =>
    let isLast := rest.isEmpty
    if isDoubleDot segment then
      if isLast then ([] :: parent above).reverse else resolve isFile (parent above) rest
    else if isDot segment then
      if isLast then ([] :: above).reverse else resolve isFile above rest
    else resolve isFile ((if isFile && above.isEmpty then driveOf segment else [segment]) ++ above) rest

def isSlash (family : Family) (c : Char) : Bool := c = '/' || (family ≠ .other && c = '\\')

def segments (family : Family) (cs : List Char) : List (List Char) := splitBy (isSlash family) cs

def pathOf (segments : List (List Char)) : String :=
  String.join (segments.map fun segment => "/" ++ encodeSegment segment)

def filePathOf (segments : List (List Char)) : String :=
  "/" ++ trimStartBy (· = '/') (pathOf segments)

def splitPort (inBrackets : Bool) : List Char → List Char × Option (List Char)
  -- divides a host from its port at the first colon outside brackets
  | [] => ([], none)
  | c :: rest =>
    if c = ':' && !inBrackets then ([], some rest)
    else
      let (host, port) := splitPort (c = '[' || (inBrackets && c ≠ ']')) rest
      (c :: host, port)

def port? (usual : Option Nat) (cs : List Char) : Option (Option Nat × List Char) :=
  let digits := cs.takeWhile Char.isDigit
  let rest := cs.dropWhile Char.isDigit
  let n := Nat.ofDigitChars 10 digits 0
  if n < 65536 ∧ (rest = [] ∨ rest.head? = some '\\') then
    some (if digits = [] ∨ usual = some n then none else some n, rest)
  else none

def splitCredentials (cs : List Char) : Option (List Char) × List Char :=
  let host := (cs.reverse.takeWhile (· ≠ '@')).reverse
  if host.length = cs.length then (none, cs) else (some (cs.take (cs.length - host.length - 1)), host)

def authority? (family : Family) (cs : List Char) (hasPath : Bool) : Option (Authority × List Char) := do
  let (credentials, rest) := splitCredentials cs
  let (hostText, port) := splitPort false rest
  let username := encodeCredential ((credentials.getD []).takeWhile (· ≠ ':'))
  let password := encodeCredential (((credentials.getD []).dropWhile (· ≠ ':')).drop 1)
  if hostText = [] then
    guard (family = .other && port.isNone && username = "" && password = "" && !(credentials = some [] && hasPath))
    return (.empty, [])
  else
    let host ← if family = .other then Host.readPlain? hostText else Host.read? hostText
    let (port, rest) ← port? family.usualPort? (port.getD [])
    return (⟨username, password, some host, port⟩, rest)

def ofWeb? (family : Family) (cs : List Char) : Option (Authority × String) := do
  let cs := cs.dropWhile (isSlash family)
  let path := cs.dropWhile (!isSlash family ·)
  let (authority, _) ← authority? family (cs.takeWhile (!isSlash family ·)) (path ≠ [])
  return (authority, pathOf (resolve false [] (segments family path.tail)))

def ofOther? (cs : List Char) : Option (Option Authority × String) :=
  match cs with
  | '/' :: '/' :: cs => do
    let path := cs.dropWhile (· ≠ '/')
    let (authority, before) ← authority? .other (cs.takeWhile (· ≠ '/')) (path ≠ [])
    let path := before ++ path
    let text := if path = [] then "" else
      pathOf (resolve false [] (segments .other (if path.head? = some '/' then path.tail else path)))
    return (some authority, text)
  | '/' :: path => some (none, pathOf (resolve false [] (segments .other path)))
  | _ => some (none, Percent.escape "" cs)

def ofFile? (cs : List Char) : Option (Authority × String) := do
  let isSlash := isSlash .file
  let within (host : Option Host) (path : List Char) : Authority × String :=
    -- the host of a file and its segments: the local host counts as none, and with a drive there is no host
    let found := resolve true [] (segments .file path)
    (.ofHost (if found.head?.any isDrive then none else host), filePathOf found)
  match cs with
  | [] => return within none []
  | first :: cs =>
    if !isSlash first then return within none (first :: cs)
    else if !cs.head?.any isSlash then return within none cs
    else
      let name := cs.tail.takeWhile (!isSlash ·)
      let path := cs.tail.dropWhile (!isSlash ·)
      if isDrive name then return within none cs.tail
      else if name = [] then return within none path
      else
        let host ← Host.read? name
        if host = .name "localhost" then return within none path else return within (some host) path.tail

def ofRest? (scheme : String) (cs : List Char) (query fragment : Option (List Char)) : Option Url := do
  let family := familyOf scheme
  let query := query.map (encodeQuery family)
  let fragment := fragment.map encodeFragment
  let (authority, path) ← match family with
    | .file => (ofFile? cs).map fun (authority, path) => (some authority, path)
    | .web _ => (ofWeb? family cs).map fun (authority, path) => (some authority, path)
    | .other => ofOther? cs
  return ⟨scheme, authority, path, query, fragment⟩

def isSchemeChar (c : Char) : Bool := c.isAlphanum || c = '+' || c = '-' || c = '.'

def after? (mark : Char) (cs : List Char) : Option (List Char) :=
  match cs.dropWhile (· ≠ mark) with
  | [] => none
  | _ :: rest => some rest

def read? (s : String) : Option Url := do
  let cs := (Trim.both (fun c => c.toNat ≤ 0x20) s.toList).filter fun c => c ≠ '\t' && c ≠ '\n' && c ≠ '\r'
  let name := cs.takeWhile isSchemeChar
  guard (name.head?.any Char.isAlpha)
  match cs.dropWhile isSchemeChar with
  | ':' :: rest => do
    let fragment := after? '#' rest
    let rest := rest.takeWhile (· ≠ '#')
    ofRest? (lower (String.ofList name)) (rest.takeWhile (· ≠ '?')) (after? '?' rest) fragment
  | _ => none

def credentials? (u : Url) : Option (String × Option String) := do
  let decode? (s : String) : Option String := Utf8.decode? (.ofList (Percent.decode (Utf8.encode s)))
  let authority ← u.authority
  let username ← decode? authority.username
  let password := if authority.password = "" then none else decode? authority.password
  guard (username ≠ "" || password.isSome)
  return (username, password)

def withoutCredentials (u : Url) : Url :=
  { u with authority := u.authority.map fun a => { a with username := "", password := "" } }

def isSendable (u : Url) : Bool :=
  u.text.length < 65535 && !(u.host?.any fun host => host.text.toList.any "\"\x60\x7b\x7d".toList.contains)

end Url

end ResumableUpload.Http
