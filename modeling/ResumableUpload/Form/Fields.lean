import ResumableUpload.Chunk
import ResumableUpload.Failure.Request
import ResumableUpload.File.Metadata
import ResumableUpload.Text.Decimal
import ResumableUpload.Text.Quoted

/-! The form of one chunk: its text fields, and the file and chunk they describe. -/

namespace ResumableUpload

abbrev FormFields := List (String × String)

def FormFields.text? (fields : FormFields) (name : String) : Option String :=
  ((fields.reverse.find? (·.1 = name)).map fun field => Text.trim field.2).filter (· ≠ "")

def FormFields.parsed? (fields : FormFields) (read : String → Option α) (name : String) :
    Except RequestError (Option α) :=
  match fields.text? name with
  | none => .ok none
  | some value =>
    match read value with
    | some a => .ok (some a)
    | none => .error (.parsingForm s!"{name} has invalid value {Text.Quoted.text value}")

def readBool? : String → Option Bool
  | "true" => some true
  | "false" => some false
  | _ => none

structure UploadForm where
  path : Option String
  isPublishable : Option Bool
  collectionId : Option String
  bundleId : Option String
  title : Option String
  totalSize : Option UInt64
  contentType : Option String
  licence : Option String
  licenceUrl : Option String
  fileName : Option String
  chunkNumber : Option UInt32
  totalChunks : Option UInt32
  datasetId : Option String
  edition : Option String
  version : Option String
deriving DecidableEq, Repr

namespace UploadForm

def ofFields (fields : FormFields) : Except RequestError UploadForm := do
  let isPublishable ← fields.parsed? readBool? "isPublishable"
  let totalSize ← fields.parsed? Text.Decimal.readUInt64? "resumableTotalSize"
  let chunkNumber ← fields.parsed? Text.Decimal.readUInt32? "resumableChunkNumber"
  let totalChunks ← fields.parsed? Text.Decimal.readUInt32? "resumableTotalChunks"
  return {
    path := fields.text? "path"
    isPublishable
    collectionId := fields.text? "collectionId"
    bundleId := fields.text? "bundleId"
    title := fields.text? "title"
    totalSize
    contentType := fields.text? "resumableType"
    licence := fields.text? "licence"
    licenceUrl := fields.text? "licenceUrl"
    fileName := fields.text? "resumableFilename"
    chunkNumber
    totalChunks
    datasetId := fields.text? "datasetId"
    edition := fields.text? "edition"
    version := fields.text? "version" }

def contentItem (form : UploadForm) : Option ContentItem := do
  return ⟨← form.datasetId, ← form.edition, ← form.version⟩

def metadata (form : UploadForm) : FileMetadata where
  path := form.path.getD ""
  isPublishable := form.isPublishable.getD false
  collectionId := form.collectionId
  bundleId := form.bundleId
  title := form.title.getD ""
  sizeInBytes := form.totalSize.getD 0
  contentType := form.contentType.getD ""
  licence := form.licence.getD ""
  licenceUrl := form.licenceUrl.getD ""
  contentItem := form.contentItem

def chunk (form : UploadForm) : Chunk where
  fileName := form.fileName.getD form.metadata.fileName
  declaredType := form.contentType.getD ""
  current := (form.chunkNumber.getD 0).toNat
  total := (form.totalChunks.getD 0).toNat

end UploadForm

end ResumableUpload
