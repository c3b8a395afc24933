import Mathlib.Data.List.MinMax
import Mathlib.Data.List.Nodup
import Mathlib.Data.Prod.Lex
import Mathlib.Tactic
import ResumableUpload.Proofs.Dialogue
import ResumableUpload.Proofs.S3.Stage

/-! Which of the open uploads that a service lists a file joins. Only those of exactly its key count, and of these the
one that was begun first. -/

namespace ResumableUpload

namespace S3

/-- An upload as a service lists it that says all of it. -/
structure Begun where
  key : String
  uploadId : String
  initiated : Instant
deriving DecidableEq, Repr

namespace Begun

def entry (e : Begun) : OpenUpload := ⟨some e.key, some e.uploadId, some e.initiated⟩

variable {key : String} {entries others : List Begun} {e : Begun}

end Begun

end S3

namespace S3Storage

open S3 (Begun Exchange Instant Request)

def openUpload (s : S3Storage) (key contentType : String) : Exchange (Except StorageError String) := do
  match ← s.send (.createUpload s.bucket key contentType) with
  | .error e => return .error (uploadFailed e)
  | .ok none => return .error (.uploadFailed "No upload ID returned from S3")
  | .ok (some uploadId) => return .ok uploadId

variable {s : S3Storage} {key contentType : String}
  {next : (Request.listUploads s.bucket key).Answer → Exchange (Except StorageError String)}

end S3Storage

end ResumableUpload
