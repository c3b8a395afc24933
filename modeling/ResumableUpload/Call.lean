import ResumableUpload.Bytes
import ResumableUpload.Chunk
import ResumableUpload.Dialogue
import ResumableUpload.Failure.Secret
import ResumableUpload.File.Metadata
import ResumableUpload.Key

/-! The calls that the service makes on its backends: the object store, the file registry, the secret
store and the source of fresh keys. -/

namespace ResumableUpload

structure PartReceipt where
  complete : Bool
  etag : String
deriving DecidableEq, Repr

structure ObjectHead where
  length : Nat
  etag : Option String
deriving DecidableEq, Repr

inductive StorageCall
  | put (path : String) (chunk : Chunk) (payload : Bytes) (key : Option EncryptionKey)
  | head (path : String)
  | check

inductive RegistryCall
  | register (authorization : Option String) (metadata : FileMetadata)
  | mark (authorization : Option String) (path etag : String)
  | find (authorization : Option String) (path : String)
  | check

inductive SecretCall
  | write (path name value : String)
  | read (path name : String)
  | check

inductive Call
  | storage (c : StorageCall)
  | registry (c : RegistryCall)
  | secret (c : SecretCall)
  | freshKey

abbrev StorageCall.Answer : StorageCall → Type
  | .put .. => Except StorageError PartReceipt
  | .head _ => Except StorageError ObjectHead
  | .check => Except StorageError Unit

abbrev RegistryCall.Answer : RegistryCall → Type
  | .find .. => Except UploadError FileMetadata
  | _ => Except UploadError Unit

abbrev SecretCall.Answer : SecretCall → Type
  | .read .. => Except SecretError String
  | _ => Except SecretError Unit

abbrev Call.Answer : Call → Type
  | .storage c => c.Answer
  | .registry c => c.Answer
  | .secret c => c.Answer
  | .freshKey => Except String EncryptionKey

abbrev Procedure (α : Type) := Dialogue Call Call.Answer α

abbrev Attempt (α : Type) := ExceptT UploadError (Dialogue Call Call.Answer) α

namespace Procedure

def storage (c : StorageCall) : Procedure c.Answer := Dialogue.query (Call.storage c)

def registry (c : RegistryCall) : Procedure c.Answer := Dialogue.query (Call.registry c)

def secret (c : SecretCall) : Procedure c.Answer := Dialogue.query (Call.secret c)

def freshKey : Procedure (Except String EncryptionKey) := Dialogue.query Call.freshKey

end Procedure

end ResumableUpload
