import ResumableUpload.Form.Fields

/-! The rules of the upload form. -/

namespace ResumableUpload

namespace UploadPath

def isLetterOrDigit (c : Char) : Bool := c.isAlphanum

def isKeyChar (c : Char) : Bool := isLetterOrDigit c || c = '.' || c = '_' || c = '-' || c = '/'

def segments (path : List Char) : List (List Char) := path.splitOn '/'

def valid (path : String) : Bool :=
  let cs := path.toList
  1 ≤ cs.length && cs.length ≤ 1024 && cs.all isKeyChar && cs.head? ≠ some '/' &&
    !(segments cs).contains ['.', '.']

end UploadPath

namespace MediaTypeName

def isNameChar (c : Char) : Bool := c.isAlphanum || "!#$&^_.+-".toList.contains c

def nameRest (cs : List Char) : Option (List Char) :=
  match cs with
  | c :: rest => if c.isAlphanum then some (rest.dropWhile isNameChar) else none
  | [] => none

def valid (s : String) : Bool :=
  match nameRest s.toList with
  | some ('/' :: rest) =>
    match nameRest rest with
    | some [] => true
    | some rest =>
      match rest.dropWhile Text.isBlank with
      | ';' :: parameters => !parameters.contains '\n'
      | _ => false
    | none => false
  | _ => false

end MediaTypeName

namespace UploadForm

inductive Field
  | path
  | isPublishable
  | totalSize
  | contentType
  | licence
  | licenceUrl
  | chunkNumber
  | totalChunks
deriving DecidableEq, Repr

def Field.all : List Field :=
  [.path, .isPublishable, .totalSize, .contentType, .licence, .licenceUrl, .chunkNumber, .totalChunks]

def Field.name : Field → String
  | .path => "path"
  | .isPublishable => "isPublishable"
  | .totalSize => "resumableTotalSize"
  | .contentType => "resumableType"
  | .licence => "licence"
  | .licenceUrl => "licenceUrl"
  | .chunkNumber => "resumableChunkNumber"
  | .totalChunks => "resumableTotalChunks"

def missing (form : UploadForm) : Field → Bool
  | .path => form.path.isNone
  | .isPublishable => form.isPublishable.isNone
  | .totalSize => form.totalSize.isNone
  | .contentType => form.contentType.isNone
  | .licence => form.licence.isNone
  | .licenceUrl => form.licenceUrl.isNone
  | .chunkNumber => form.chunkNumber.isNone
  | .totalChunks => form.totalChunks.isNone

inductive Rule
  | required (field : Field)
  | uploadPath
  | mediaType
  | sizeRange
  | chunkNumberRange
  | totalChunksRange
  -- a file belongs to a collection or to a bundle
  | collectionOrBundle
  -- no chunk comes after the last
  | numberWithinTotal
deriving DecidableEq, Repr

def fieldRules : List Rule :=
  Field.all.map .required ++ [.uploadPath, .mediaType, .sizeRange, .chunkNumberRange, .totalChunksRange]

def formRules : List Rule := [.collectionOrBundle, .numberWithinTotal]

def isChunkCount (n : UInt32) : Bool := 1 ≤ n.toNat && n.toNat ≤ maxChunks

def breaks (form : UploadForm) : Rule → Bool
  -- a missing value breaks no rule but that it is required
  | .required field => form.missing field
  | .uploadPath => form.path.any (!UploadPath.valid ·)
  | .mediaType => form.contentType.any (!MediaTypeName.valid ·)
  | .sizeRange => form.totalSize.any (· < 1)
  | .chunkNumberRange => form.chunkNumber.any (!isChunkCount ·)
  | .totalChunksRange => form.totalChunks.any (!isChunkCount ·)
  | .collectionOrBundle => form.collectionId.isSome && form.bundleId.isSome
  | .numberWithinTotal => form.chunkNumber.any fun n => form.totalChunks.any (· < n)

def Rule.description : Rule → String
  | .required field => s!"{field.name} required"
  | .uploadPath => s!"{Field.path.name} aws-upload-key"
  | .mediaType => s!"{Field.contentType.name} mime-type"
  | .sizeRange => s!"{Field.totalSize.name} range"
  | .chunkNumberRange => s!"{Field.chunkNumber.name} range"
  | .totalChunksRange => s!"{Field.totalChunks.name} range"
  | .collectionOrBundle => "collectionId-bundleId-exclusive"
  | .numberWithinTotal => "resumableChunkNumber-lte-resumableTotalChunks"

def Rule.entry (rule : Rule) : ErrorEntry := ⟨"ValidationError", rule.description⟩

def broken (form : UploadForm) : List Rule :=
  match fieldRules.filter form.breaks with
  | [] => (formRules.find? form.breaks).toList
  | rules => rules

def violations (form : UploadForm) : List ErrorEntry :=
  (form.broken.map Rule.entry).mergeSort fun a b => a.description ≤ b.description

def check (form : UploadForm) : Except RequestError Unit :=
  if form.violations = [] then .ok () else .error (.validation form.violations)

end UploadForm

end ResumableUpload
