import ResumableUpload.File.ETag
import ResumableUpload.Setting.Choice
import ResumableUpload.Upload.Keys
import ResumableUpload.Upload.Position

/-! The upload of one chunk. A file is registered and has its key before any of its bytes are stored, and
it is marked as uploaded once all of them are. -/

namespace ResumableUpload

/-- How files are stored: under which root their keys are kept, if they are encrypted, and whence the
digest of a finished object is taken. -/
structure UploadPolicy where
  keyRoot : Option String
  digest : CompletionDigest
deriving DecidableEq, Repr

inductive Completion
  | continuing
  | completed
  -- the object is stored, but its completion was not recorded
  | unrecorded (e : UploadError)
deriving DecidableEq, Repr

def Completion.allStored : Completion → Bool
  | .continuing => false
  | _ => true

namespace Upload

def etagOf (path : String) (head : ObjectHead) : Except UploadError String :=
  match head.etag with
  | some etag => .ok (ETag.unquote etag)
  | none => .error (.storage s!"no ETag for {path}")

def complete (authorization : Option String) (path : String) (etag : Except UploadError String) :
    Procedure Completion := do
  match etag with
  | .error e => return .unrecorded e
  | .ok etag =>
    match ← Procedure.registry (.mark authorization path etag) with
    | .error e => return .unrecorded e
    | .ok () => return .completed

def completionTag (digest : CompletionDigest) (path : String) (receipt : PartReceipt) :
    Procedure (Except UploadError String) := do
  match digest with
  | .part => return .ok (ETag.unquote receipt.etag)
  | .head =>
    match ← Procedure.storage (.head path) with
    | .error e => return .error (.ofStorage e)
    | .ok head => return etagOf path head

def keyFor (policy : UploadPolicy) (authorization : Option String) (m : FileMetadata) (c : Chunk) :
    Attempt (Option EncryptionKey) := do
  if c.isFirst then
    ExceptT.mk (Procedure.registry (.register authorization m))
  match policy.keyRoot with
  | none => return none
  | some root => if c.isFirst then some <$> Keys.generate root m.path else some <$> Keys.read root m.path

def store (policy : UploadPolicy) (authorization : Option String) (m : FileMetadata) (c : Chunk)
    (payload : Bytes) : Attempt Completion := do
  let key ← keyFor policy authorization m c
  match ← Procedure.storage (.put m.path c payload key) with
  | .error e => throw (.ofStorage e)
  | .ok receipt =>
    if receipt.complete then
      let etag ← ExceptT.lift (completionTag policy.digest m.path receipt)
      complete authorization m.path etag
    else return .continuing

/-- Uploads one chunk. A last chunk sent again for an object that is already there stores nothing and
only records the completion. -/
def chunk (policy : UploadPolicy) (authorization : Option String) (m : FileMetadata) (c : Chunk)
    (payload : Bytes) : Attempt Completion := do
  ExceptT.mk (.done c.checkPosition)
  if c.isFirst = false ∧ c.isFinal = true then
    match ← Procedure.storage (.head m.path) with
    | .ok head => complete authorization m.path (etagOf m.path head)
    | .error _ => store policy authorization m c payload
  else store policy authorization m c payload

end Upload

end ResumableUpload
