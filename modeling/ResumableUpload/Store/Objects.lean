import ResumableUpload.Call
import ResumableUpload.Digest.Sha256
import ResumableUpload.Storage.Part
import ResumableUpload.Store.Parts
import ResumableUpload.Table

/-! An object store in memory: parts wait under their path until there are as many as the file has. -/

namespace ResumableUpload

structure StoredObject where
  content : Bytes
  etag : String

structure ObjectStore where
  pending : Table String Parts
  objects : Table String StoredObject

namespace ObjectStore

def empty : ObjectStore := ⟨∅, ∅⟩

def fingerprint (b : Bytes) : String := Text.Hex.encode ((Sha256.digest b).take 16)

def partTag (body : Bytes) : String := "\"" ++ fingerprint body ++ "\""

def objectTag (content : Bytes) (parts : Nat) : String := "\"" ++ fingerprint content ++ s!"-{parts}\""

def partsOf (s : ObjectStore) (path : String) : Parts := (s.pending.get? path).getD ∅

def place (s : ObjectStore) (path : String) (chunk : Chunk) (body : Bytes) : PartReceipt × ObjectStore :=
  -- stores a body as a part; with as many parts as the file has chunks, they become the object
  let parts := (s.partsOf path).insert chunk.current body
  if parts.count < chunk.total then
    (⟨false, partTag body⟩, { s with pending := s.pending.insert path parts })
  else
    let content := parts.assembled
    let etag := objectTag content parts.count
    (⟨true, etag⟩, ⟨s.pending.erase path, s.objects.insert path ⟨content, etag⟩⟩)

def put (s : ObjectStore) (path : String) (chunk : Chunk) (payload : Bytes) (key : Option EncryptionKey) :
    Except StorageError PartReceipt × ObjectStore :=
  match chunk.checkSize payload.size with
  | .error e => (.error e, s)
  | .ok () =>
    match chunk.body payload key with
    | .error e => (.error e, s)
    | .ok body => let (receipt, s) := s.place path chunk body; (.ok receipt, s)

def head (s : ObjectStore) (path : String) : Except StorageError ObjectHead :=
  match s.objects.get? path with
  | some object => .ok ⟨object.content.size, some object.etag⟩
  | none => .error (.notFound path)

def respond : (c : StorageCall) → ObjectStore → c.Answer × ObjectStore
  | .put path chunk payload key, s => s.put path chunk payload key
  | .head path, s => (s.head path, s)
  | .check, s => (.ok (), s)

end ObjectStore

end ResumableUpload
