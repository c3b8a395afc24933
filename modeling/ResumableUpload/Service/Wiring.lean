import ResumableUpload.Remote.Registry
import ResumableUpload.Remote.Secrets
import ResumableUpload.S3.Storage
import ResumableUpload.Setting.Config
import ResumableUpload.Upload.Keys

/-! The backends that the settings of a deployment choose. -/

namespace ResumableUpload

inductive ObjectBackend
  | s3 (storage : S3Storage)
  | memory (bucket : String)

inductive FileBackend
  | remote (registry : RemoteRegistry)
  | memory

inductive KeyBackend
  | remote (secrets : RemoteSecrets)
  | memory

structure Wiring where
  objects : ObjectBackend
  files : FileBackend
  -- where the keys of files are kept and under which root, if files are encrypted
  keys : Option (KeyBackend × String)

inductive WiringProblem
  | invalid (p : Config.Problem)
  | storage (e : StorageError)

def WiringProblem.reasons : WiringProblem → List String
  | .invalid p => "Configuration validation failed" :: p.reasons
  | .storage e => ["Failed to initialize object storage", e.message]

namespace Config

def objectBackend (c : Config) : Except StorageError ObjectBackend :=
  match c.storageBackend with
  | .memory => .ok (.memory c.bucket)
  | .s3 =>
    if Text.trim c.bucket = "" then .error (.configuration "UPLOAD_BUCKET_NAME not configured")
    else .ok (.s3 ⟨c.bucket, c.region, c.endpoint⟩)

def fileBackend (c : Config) : FileBackend :=
  match c.registryBackend with
  | .memory => .memory
  | .http => .remote (.ofAddress c.registryUrl c.serviceToken)

def keyBackend (c : Config) : KeyBackend :=
  match c.secretBackend with
  | .memory => .memory
  | .vault => .remote ⟨c.vaultAddress, c.vaultToken⟩

def wire (c : Config) : Except WiringProblem Wiring :=
  match c.objectBackend with
  | .error e => .error (.storage e)
  | .ok objects =>
    .ok ⟨objects, c.fileBackend, if c.encryptionEnabled then some (c.keyBackend, c.vaultPath) else none⟩

def start (c : Config) : Except WiringProblem Wiring :=
  match c.validate with
  | .error p => .error (.invalid p)
  | .ok () => c.wire

end Config

namespace Wiring

def storageBackend (w : Wiring) : StorageBackend :=
  match w.objects with
  | .s3 _ => .s3
  | .memory _ => .memory

def objectUrl (w : Wiring) (path : String) : String :=
  match w.objects with
  | .s3 storage => storage.objectUrl path
  | .memory bucket => Storage.memoryUrl bucket path

def keyPath? (w : Wiring) (path : String) : Option String := w.keys.map fun keys => Keys.secretPath keys.2 path

end Wiring

end ResumableUpload
