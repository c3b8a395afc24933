import ResumableUpload.Http.Url

/-! Addresses at which an S3 service other than the usual one is found. -/

namespace ResumableUpload.S3.Endpoint

def afterScheme? (address : String) : Option (List Char) :=
  ["http://", "https://"].findSome? fun scheme =>
    let start := address.toList.take scheme.length
    if start.map Char.toLower = scheme.toList then some (address.toList.drop scheme.length) else none

def isHostChar (c : Char) : Bool := c.isAlphanum || "!$&'()*+,-.:;=@[]_~".toList.contains c

def isAuthority (cs : List Char) : Bool :=
  let host := (Http.Url.splitCredentials cs).2
  cs.all (fun c => isHostChar c || c = '%') && host.all isHostChar

def isPathChar (c : Char) : Bool := 0x20 < c.toNat && !"<>?\x60".toList.contains c

def isUsable (address : String) : Bool :=
  match afterScheme? address with
  | none => false
  | some rest =>
    let authority := rest.takeWhile fun c => c ≠ '/' && c ≠ '?' && c ≠ '#'
    let path := (rest.drop authority.length).takeWhile (· ≠ '#')
    isAuthority authority && path.all isPathChar && (Http.Url.read? address).isSome

end ResumableUpload.S3.Endpoint
