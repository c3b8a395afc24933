import ResumableUpload.File.Metadata

/-! The status document of a file: what is registered, and whether its content and key are at hand. -/

namespace ResumableUpload

structure ProbeResult where
  valid : Bool
  error : Option String
deriving DecidableEq, Repr

structure Status where
  metadata : FileMetadata
  fileContent : ProbeResult
  encryptionKey : Option ProbeResult
deriving DecidableEq, Repr

namespace ProbeResult

def found : ProbeResult := ⟨true, none⟩

def failed (error : String) : ProbeResult := ⟨false, some error⟩

def toJson (p : ProbeResult) : Json :=
  .ofPresent [("valid", some (.bool p.valid)), ("error", p.error.map .string)]

def ofJson? (j : Json) : Option ProbeResult := do
  let field ← j.record? ["valid", "error"]
  let valid ← Json.required Json.bool? (field "valid")
  let error ← Json.optional Json.string? (field "error")
  return { valid, error }

end ProbeResult

namespace Status

def toJson (s : Status) : Json :=
  .ofPresent [
    ("metadata", some s.metadata.toJson),
    ("file_content", some s.fileContent.toJson),
    ("encryption_key", s.encryptionKey.map ProbeResult.toJson)]

def ofJson? (j : Json) : Option Status := do
  let field ← j.record? ["metadata", "file_content", "encryption_key"]
  let metadata ← Json.required FileMetadata.ofJson? (field "metadata")
  let fileContent ← Json.required ProbeResult.ofJson? (field "file_content")
  let encryptionKey ← Json.optional ProbeResult.ofJson? (field "encryption_key")
  return { metadata, fileContent, encryptionKey }

end Status

end ResumableUpload
