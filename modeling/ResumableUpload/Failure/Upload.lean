import ResumableUpload.Failure.Storage

/-! Failures of an upload, and how each is presented to the caller and in the log. -/

namespace ResumableUpload

inductive UploadError
  | keyGeneration (detail : String)
  | secretWrite (detail : String)
  | secretRead (detail : String)
  | invalidKey (detail : String)
  | chunkTooSmall
  | invalidPosition (detail : String)
  | storage (detail : String)
  | duplicateFile
  | rejected (detail : String)
  | unauthorised
  | registryFault
  | connection (detail : String)
  | fileNotFound (path : String)
  | stateConflict (path : String)
  | notRegistered (path : String)
  | unknown (detail : String)
  | timeout
deriving DecidableEq, Repr

inductive Severity
  | debug
  | warn
  | error
deriving DecidableEq, Repr

/-- How a failure is presented: the status and code of the answer, whether the same chunk may be sent
again, whether its text stays inside, and how loudly it is logged. -/
structure Presentation where
  status : Nat
  code : String
  recoverable : Bool
  sensitive : Bool
  severity : Severity
deriving DecidableEq, Repr

namespace UploadError

def message : UploadError → String
  | .keyGeneration detail => s!"failed to generate encryption key: {detail}"
  | .secretWrite detail => s!"failed to write to vault: {detail}"
  | .secretRead detail => s!"failed to read from vault: {detail}"
  | .invalidKey detail => s!"encryption key is not valid hex: {detail}"
  | .chunkTooSmall => "chunk size below minimum 5MB"
  | .invalidPosition detail => s!"invalid chunk position: {detail}"
  | .storage detail => s!"uploading part failed: {detail}"
  | .duplicateFile => "files API already contains a file with this path"
  | .rejected detail => s!"invalid data sent to files API: {detail}"
  | .unauthorised => "not authorised to call files API"
  | .registryFault => "files API returned a server error"
  | .connection detail => s!"could not connect to files API: {detail}"
  | .fileNotFound path => s!"file not found: {path}"
  | .stateConflict path => s!"file was not in the expected state: {path}"
  | .notRegistered path => s!"file not registered with files API: {path}"
  | .unknown detail => s!"unknown error: {detail}"
  | .timeout => "request timed out"

def name : UploadError → String
  | .keyGeneration _ => "KeyGeneration"
  | .secretWrite _ => "VaultWrite"
  | .secretRead _ => "VaultRead"
  | .invalidKey _ => "InvalidEncryptionKey"
  | .chunkTooSmall => "ChunkTooSmall"
  | .invalidPosition _ => "InvalidChunk"
  | .storage _ => "Upload"
  | .duplicateFile => "DuplicateFile"
  | .rejected _ => "Validation"
  | .unauthorised => "Unauthorised"
  | .registryFault => "Server"
  | .connection _ => "Connection"
  | .fileNotFound _ => "FileNotFound"
  | .stateConflict _ => "FileStateConflict"
  | .notRegistered _ => "FilesApiNotFound"
  | .unknown _ => "Unknown"
  | .timeout => "Timeout"

def presentation : UploadError → Presentation
  | .keyGeneration _ => ⟨500, "InternalError", true, true, .error⟩
  | .secretWrite _ => ⟨500, "InternalError", true, true, .error⟩
  | .secretRead _ => ⟨500, "InternalError", true, true, .error⟩
  | .invalidKey _ => ⟨500, "InternalError", false, true, .error⟩
  | .chunkTooSmall => ⟨400, "ChunkTooSmall", false, false, .warn⟩
  | .invalidPosition _ => ⟨400, "ValidationError", false, false, .debug⟩
  | .storage _ => ⟨500, "InternalError", true, true, .error⟩
  | .duplicateFile => ⟨400, "DuplicateFile", false, false, .warn⟩
  | .rejected _ => ⟨500, "RemoteValidationError", false, false, .error⟩
  | .unauthorised => ⟨403, "Unauthorised", false, false, .warn⟩
  | .registryFault => ⟨500, "InternalError", true, false, .error⟩
  | .connection _ => ⟨500, "InternalError", true, true, .error⟩
  | .fileNotFound _ => ⟨404, "FileNotFound", false, false, .warn⟩
  | .stateConflict _ => ⟨409, "FileStateConflict", false, false, .warn⟩
  | .notRegistered _ => ⟨404, "NotFound", false, false, .debug⟩
  | .unknown _ => ⟨500, "InternalError", false, true, .error⟩
  | .timeout => ⟨504, "Timeout", true, false, .warn⟩

def recoverable (e : UploadError) : Bool := e.presentation.recoverable

def sensitive (e : UploadError) : Bool := e.presentation.sensitive

def clientMessage (e : UploadError) : String :=
  if e.sensitive then "internal server error" else e.message

def ofStorage : StorageError → UploadError
  | .chunkTooSmall _ _ => .chunkTooSmall
  | e => .storage e.message

end UploadError

end ResumableUpload
