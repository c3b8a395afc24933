import ResumableUpload.Bytes
import ResumableUpload.Chunk
import ResumableUpload.Dialogue
import ResumableUpload.S3.Instant

/-! Requests to an S3 service, and what it says to them. -/

namespace ResumableUpload.S3

structure OpenUpload where
  key : Option String
  uploadId : Option String
  initiated : Option Instant
deriving DecidableEq, Repr

structure ListedPart where
  number : Option Int
  etag : Option String
deriving DecidableEq, Repr

structure PartPage where
  parts : List ListedPart
  truncated : Option Bool
  next : Option String
deriving DecidableEq, Repr

structure ObjectInfo where
  length : Option Int
  etag : Option String
deriving DecidableEq, Repr

inductive Request
  | listUploads (bucket start : String)
  | createUpload (bucket key contentType : String)
  | uploadPart (bucket key uploadId : String) (number : Nat) (body : Bytes)
  | listParts (bucket key uploadId : String) (marker : Option String)
  | completeUpload (bucket key uploadId : String) (parts : List ListedPart)
  | headObject (bucket key : String)
  | headBucket (bucket : String)

inductive Failure
  -- the request cannot be built
  | construction
  -- no answer came
  | dispatch
  -- the service refuses, with a code if it gives one
  | service (code : Option String)
deriving DecidableEq, Repr

def Failure.message : Failure → String
  | .construction => "failed to construct request"
  | .dispatch => "dispatch failure"
  | .service _ => "service error"

abbrev Request.Answer : Request → Type
  | .listUploads .. => Except Failure (List OpenUpload)
  | .createUpload .. => Except Failure (Option String)
  | .uploadPart .. => Except Failure (Option String)
  | .listParts .. => Except Failure PartPage
  | .completeUpload .. => Except Failure (Option String)
  | .headObject .. => Except Failure ObjectInfo
  | .headBucket _ => Except Failure Unit

def Request.labels : Request → List String
  | .listUploads bucket _ => [bucket]
  | .createUpload bucket key _ => [bucket, key]
  | .uploadPart bucket key uploadId _ _ => [bucket, key, uploadId]
  | .listParts bucket key uploadId _ => [bucket, key, uploadId]
  | .completeUpload bucket key uploadId _ => [bucket, key, uploadId]
  | .headObject bucket key => [bucket, key]
  | .headBucket bucket => [bucket]

abbrev Exchange (α : Type) := Dialogue Request Request.Answer α

def Request.failed (e : Failure) : (q : Request) → q.Answer
  | .listUploads .. => .error e
  | .createUpload .. => .error e
  | .uploadPart .. => .error e
  | .listParts .. => .error e
  | .completeUpload .. => .error e
  | .headObject .. => .error e
  | .headBucket _ => .error e

def Request.isBuildable (q : Request) : Bool := !q.labels.contains "" && !q.labels.head?.any (·.startsWith "arn:")

def send (q : Request) : Exchange q.Answer :=
  if q.isBuildable then .ask q .done else .done (q.failed .construction)

end ResumableUpload.S3
