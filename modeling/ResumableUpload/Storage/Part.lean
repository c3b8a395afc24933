import ResumableUpload.Chunk
import ResumableUpload.Cipher.Part

/-! Parts of an object: the chunks of its file as they are stored. -/

namespace ResumableUpload

def Chunk.checkSize (c : Chunk) (size : Nat) : Except StorageError Unit :=
  if c.SizeAdmissible size then .ok () else .error (.chunkTooSmall size minChunkSize)

def Chunk.body (c : Chunk) (payload : Bytes) : Option EncryptionKey → Except StorageError Bytes
  | none => .ok payload
  | some key => Cipher.encryptPart key c.current payload

end ResumableUpload
