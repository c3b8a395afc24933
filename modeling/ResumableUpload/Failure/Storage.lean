/-! Failures of the object store. -/

namespace ResumableUpload

inductive StorageError
  | chunkTooSmall (size minimum : Nat)
  | uploadFailed (detail : String)
  | notFound (detail : String)
  | encryption (detail : String)
  | backend (detail : String)
  | configuration (detail : String)
deriving DecidableEq, Repr

def StorageError.message : StorageError → String
  | .chunkTooSmall size minimum => s!"Chunk too small: {size} bytes (minimum {minimum})"
  | .uploadFailed detail => s!"Upload failed: {detail}"
  | .notFound detail => s!"Object not found: {detail}"
  | .encryption detail => s!"Encryption failed: {detail}"
  | .backend detail => s!"Storage backend error: {detail}"
  | .configuration detail => s!"Configuration error: {detail}"

end ResumableUpload
