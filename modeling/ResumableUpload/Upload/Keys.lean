import ResumableUpload.Call

/-! The encryption keys of files, kept in the secret store under a common root. -/

namespace ResumableUpload.Keys

def freshSize : Nat := 16

def entryName : String := "key"

def secretPath (root path : String) : String := s!"{root}/{path}"

def generate (root path : String) : Attempt EncryptionKey := do
  match ← Procedure.freshKey with
  | .error e => throw (.keyGeneration e)
  | .ok key =>
    match ← Procedure.secret (.write (secretPath root path) entryName key.toHex) with
    | .error e => throw (.secretWrite e.message)
    | .ok () => return key

def read (root path : String) : Attempt EncryptionKey := do
  match ← Procedure.secret (.read (secretPath root path) entryName) with
  | .error e => throw (.secretRead e.message)
  | .ok text => ExceptT.mk (.done (EncryptionKey.ofHex text))

def check : Attempt Unit := do
  match ← Procedure.secret .check with
  | .error e => throw (.secretRead e.message)
  | .ok () => return ()

end ResumableUpload.Keys
