import ResumableUpload.Bytes
import ResumableUpload.Http.MediaType

/-! Form data in parts, which delimiter lines divide. -/

namespace ResumableUpload.Http

structure FormPart where
  name : String
  charset : Text.Charset
  content : Option Bytes

def FormPart.textOf (p : FormPart) (content : Bytes) : String := p.charset.decode content

structure FormData where
  parts : List FormPart
  closed : Bool

namespace FormData

def unreadable : FormData := ⟨[], false⟩

def lineEnd : Bytes := "\r\n".toUTF8

def blankLine : Bytes := "\r\n\r\n".toUTF8

def isBlankByte (b : UInt8) : Bool := b = 0x20 || b = 0x09

def isNameByte (b : UInt8) : Bool :=
  (Char.ofNat b.toNat).isAlphanum || "!#$%&'*+-.^_`|~".toUTF8.toList.contains b

def isValueByte (b : UInt8) : Bool := b = 0x09 || (0x20 ≤ b && b ≠ 0x7f)

def headers? : Nat → List UInt8 → Option (List (List UInt8 × List UInt8))
  | _, 0x0d :: 0x0a :: _ => some []
  | _, 0x0a :: _ => some []
  | 0, _ => none
  | n + 1, bytes =>
    let name := bytes.takeWhile isNameByte
    match bytes.dropWhile isNameByte with
    | 0x3a :: rest =>
      let rest := rest.dropWhile isBlankByte
      let value := ((rest.takeWhile isValueByte).reverse.dropWhile isBlankByte).reverse
      if name = [] then none
      else match rest.dropWhile isValueByte with
        | 0x0d :: 0x0a :: rest => (headers? n rest).map ((name, value) :: ·)
        | 0x0a :: rest => (headers? n rest).map ((name, value) :: ·)
        | _ => none
    | _ => none

def quotedValue? : List UInt8 → Option (List UInt8)
  | [] => none
  | 0x5c :: 0x22 :: rest => (quotedValue? rest).map (0x22 :: ·)
  | 0x22 :: _ => some []
  | b :: rest => (quotedValue? rest).map (b :: ·)

def isSpaceByte (b : UInt8) : Bool := b = 0x20 || b = 0x09 || b = 0x0a || b = 0x0c || b = 0x0d

def attributeValue? (bytes : List UInt8) : Option (List UInt8) :=
  match bytes.dropWhile isSpaceByte with
  | 0x3d :: rest =>
    match rest.dropWhile isSpaceByte with
    | 0x22 :: rest => quotedValue? rest
    | rest => some (rest.takeWhile fun b => b ≠ 0x3b && b ≠ 0x20)
  | _ => none

def nameAttribute? (atEdge : Bool) (bytes : List UInt8) : Option (List UInt8) :=
  -- the value after the first word `name` that stands at an edge: at the front, after a blank or a semicolon, or
  -- after another `name`
  match bytes with
  | [] => none
  | 0x6e :: 0x61 :: 0x6d :: 0x65 :: rest => if atEdge then attributeValue? rest else nameAttribute? true rest
  | b :: rest => nameAttribute? (isSpaceByte b || b = 0x3b) rest

def headerValue? (headers : List (List UInt8 × List UInt8)) (name : String) : Option (List UInt8) :=
  (headers.reverse.find? fun h => h.1.map (fun b => (Char.ofNat b.toNat).toLower) = name.toList).map (·.2)

def fieldName (headers : List (List UInt8 × List UInt8)) : String :=
  let name := (headerValue? headers "content-disposition").bind (nameAttribute? true)
  (name.bind fun bytes => Text.Utf8.decode? (.ofList bytes)).getD ""

def isVisibleByte (b : UInt8) : Bool := b = 0x09 || (0x20 ≤ b && b < 0x7f)

def fieldCharset (headers : List (List UInt8 × List UInt8)) : Text.Charset :=
  match (headerValue? headers "content-type").filter (·.all isVisibleByte) with
  | some value => MediaType.charset (String.ofList (value.map fun b => Char.ofNat b.toNat))
  | none => .utf8

def skipBlanks (b : Bytes) (i : Nat) : Nat :=
  if h : i < b.size then if isBlankByte b[i] then skipBlanks b (i + 1) else i else i
termination_by b.size - i

def partsFrom (body delimiter : Bytes) (found : List FormPart) : Nat → Nat → FormData
  -- the parts after those in `found`, last part first, from the delimiter at `i` on
  | 0, _ => ⟨found.reverse, false⟩
  | fuel + 1, i =>
    let after := i + delimiter.size
    if body.hasAt "--".toUTF8 after then ⟨found.reverse, true⟩
    else
      let line := skipBlanks body after
      if !body.hasAt lineEnd line then ⟨found.reverse, false⟩
      else
        let start := line + 2
        match body.findFrom blankLine start with
        | none => ⟨found.reverse, false⟩
        | some stop =>
          match headers? 32 (body.extract start (stop + 4)).toList with
          | none => ⟨found.reverse, false⟩
          | some headers =>
            let part := FormPart.mk (fieldName headers) (fieldCharset headers)
            match body.findFrom (lineEnd ++ delimiter) (stop + 4) with
            | none => ⟨(part none :: found).reverse, false⟩
            | some next =>
              partsFrom body delimiter (part (some (body.extract (stop + 4) next)) :: found) fuel (next + 2)

def read (boundary : String) (body : Bytes) : FormData :=
  let delimiter := ("--" ++ boundary).toUTF8
  match body.findFrom delimiter 0 with
  | none => unreadable
  | some i => partsFrom body delimiter [] (body.size + 1) i

end FormData

end ResumableUpload.Http
