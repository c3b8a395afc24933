import ResumableUpload.Call
import ResumableUpload.S3.Endpoint
import ResumableUpload.S3.Request
import ResumableUpload.Storage.Address
import ResumableUpload.Storage.Part

/-! An object store on S3: every file is a multipart upload, which is completed once all parts are there. -/

namespace ResumableUpload

structure S3Storage where
  bucket : String
  region : String
  endpoint : Option String

namespace S3Storage

open S3 (Exchange Failure ListedPart OpenUpload PartPage)

def objectUrl (s : S3Storage) (path : String) : String := Storage.pathStyleUrl s.region s.bucket s.endpoint path

def send (s : S3Storage) (q : S3.Request) : Exchange q.Answer :=
  if s.endpoint.all S3.Endpoint.isUsable then S3.send q else .done (q.failed .construction)

def uploadFailed (e : Failure) : StorageError := .uploadFailed e.message

def backendFailed (e : Failure) : StorageError := .backend e.message

def startedFirst (x y : OpenUpload) : Bool :=
  match x.initiated, y.initiated with
  | none, _ => true
  | some _, none => false
  | some a, some b => a.le b

def earlier (best : Option OpenUpload) (u : OpenUpload) : Option OpenUpload :=
  match best with
  | none => some u
  | some b => if startedFirst b u then some b else some u

/-- The upload that was begun first among those of exactly this key, and the first listed of several. -/
def chosenUpload (key : String) (uploads : List OpenUpload) : Option OpenUpload :=
  (uploads.filter (·.key = some key)).foldl earlier none

def findOrCreateUpload (s : S3Storage) (key contentType : String) : Exchange (Except StorageError String) := do
  match ← s.send (.listUploads s.bucket key) with
  | .error e => return .error (uploadFailed e)
  | .ok uploads =>
    match (chosenUpload key uploads).bind (·.uploadId) with
    | some uploadId => return .ok uploadId
    | none =>
      match ← s.send (.createUpload s.bucket key contentType) with
      | .error e => return .error (uploadFailed e)
      | .ok none => return .error (.uploadFailed "No upload ID returned from S3")
      | .ok (some uploadId) => return .ok uploadId

def nextMarker (page : PartPage) : Option String := if page.truncated = some true then page.next else none

def listParts (s : S3Storage) (key uploadId : String) :
    Nat → Option String → Exchange (Except StorageError (List ListedPart))
  | 0, _ => .done (.error (.uploadFailed "listing of parts has no end"))
  | pages + 1, marker => do
    match ← s.send (.listParts s.bucket key uploadId marker) with
    | .error e => return .error (uploadFailed e)
    | .ok page =>
      match nextMarker page with
      | none => return .ok page.parts
      | some next =>
        match ← s.listParts key uploadId pages (some next) with
        | .error e => return .error e
        | .ok more => return .ok (page.parts ++ more)

def numberedFirst (x y : ListedPart) : Bool :=
  -- a part without a number comes before one with it
  match x.number, y.number with
  | none, _ => true
  | some _, none => false
  | some a, some b => a ≤ b

def completionFailed : Failure → StorageError
  | .service (some "EntityTooSmall") => .chunkTooSmall 0 minChunkSize
  | e => uploadFailed e

def completeUpload (s : S3Storage) (key uploadId : String) (parts : List ListedPart) :
    Exchange (Except StorageError String) := do
  match ← s.send (.completeUpload s.bucket key uploadId (parts.mergeSort numberedFirst)) with
  | .error e => return .error (completionFailed e)
  | .ok etag => return .ok (etag.getD "")

def checkNumber (c : Chunk) : Except StorageError Unit :=
  if c.current < 0x80000000 then .ok () else .error (.uploadFailed s!"part number {c.current} out of range")

/-- Stores a body as a part of an upload, and completes the upload if it now has all its parts. -/
def storePart (s : S3Storage) (pages : Nat) (path uploadId : String) (c : Chunk) (body : Bytes) :
    Exchange (Except StorageError PartReceipt) := do
  match ← s.send (.uploadPart s.bucket path uploadId c.current body) with
  | .error e => return .error (uploadFailed e)
  | .ok none => return .error (.uploadFailed s!"No ETag returned for part {c.current}")
  | .ok (some etag) =>
    match ← s.listParts path uploadId pages none with
    | .error e => return .error e
    | .ok parts =>
      if parts.length < c.total then return .ok ⟨false, etag⟩
      else
        match ← s.completeUpload path uploadId parts with
        | .error e => return .error e
        | .ok etag => return .ok ⟨true, etag⟩

def put (s : S3Storage) (pages : Nat) (path : String) (c : Chunk) (payload : Bytes) (key : Option EncryptionKey) :
    Exchange (Except StorageError PartReceipt) := do
  match c.checkSize payload.size, checkNumber c with
  | .error e, _ => return .error e
  | .ok (), .error e => return .error e
  | .ok (), .ok () =>
    match ← s.findOrCreateUpload path c.declaredType with
    | .error e => return .error e
    | .ok uploadId =>
      match c.body payload key with
      | .error e => return .error e
      | .ok body => s.storePart pages path uploadId c body

def head (s : S3Storage) (path : String) : Exchange (Except StorageError ObjectHead) := do
  match ← s.send (.headObject s.bucket path) with
  | .ok info => return .ok ⟨(info.length.getD 0).toNat, info.etag⟩
  | .error (.service (some "NotFound")) => return .error (.notFound path)
  | .error e => return .error (backendFailed e)

def check (s : S3Storage) : Exchange (Except StorageError Unit) := do
  match ← s.send (.headBucket s.bucket) with
  | .ok () => return .ok ()
  | .error e => return .error (backendFailed e)

def respond (s : S3Storage) (pages : Nat) : (c : StorageCall) → Exchange c.Answer
  | .put path chunk payload key => s.put pages path chunk payload key
  | .head path => s.head path
  | .check => s.check

end S3Storage

end ResumableUpload
