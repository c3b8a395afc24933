import ResumableUpload.Bytes
import ResumableUpload.Cipher.Aes
import ResumableUpload.Cipher.Feedback
import ResumableUpload.Key

/-! The encryption of the parts of a file, each on its own, under the key of the file. -/

namespace ResumableUpload.Cipher

/-- The start of part `n`: its number in the last four bytes. -/
def partStart (n : Nat) : Block :=
  ⟨.zero, .zero, .zero, ⟨.ofNat (n / 0x1000000), .ofNat (n / 0x10000), .ofNat (n / 0x100), .ofNat n⟩⟩

def unsupportedKey (key : EncryptionKey) : StorageError :=
  .encryption s!"unsupported key length {key.bytes.length} bytes (expected 16, 24 or 32)"

def encryptPart (key : EncryptionKey) (part : Nat) (payload : Bytes) : Except StorageError Bytes :=
  if Aes.isKeySize key.bytes.length then
    let schedule := Aes.Schedule.ofKey key.bytes
    .ok (.ofList (Feedback.encrypt schedule.encipher (partStart part) payload.octets))
  else .error (unsupportedKey key)

def decryptPart (key : EncryptionKey) (part : Nat) (payload : Bytes) : Except StorageError Bytes :=
  if Aes.isKeySize key.bytes.length then
    let schedule := Aes.Schedule.ofKey key.bytes
    .ok (.ofList (Feedback.decrypt schedule.encipher (partStart part) payload.octets))
  else .error (unsupportedKey key)

end ResumableUpload.Cipher
