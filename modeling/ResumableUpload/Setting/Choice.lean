import ResumableUpload.Json.Record
import ResumableUpload.Text.Blank

/-! Settings that are one of a few words: the backends of a deployment and the source of a digest. -/

namespace ResumableUpload

class Choice (α : Type) where
  subject : String
  options : List α
  word : α → String
  label : α → String

namespace Choice

variable {α : Type} [Choice α]

def named? (s : String) : Option α := options.find? fun a => word a = s

def read? (s : String) : Option α := named? (Text.lower s)

def refusal (α : Type) [Choice α] (given : String) : String := s!"Invalid {subject α}: {given}"

def toJson (a : α) : Json := .string (word a)

def ofJson? (j : Json) : Option α := Json.word? named? j

end Choice

inductive StorageBackend
  | s3
  | memory
deriving DecidableEq, Repr

instance : Choice StorageBackend where
  subject := "storage backend"
  options := [.s3, .memory]
  word | .s3 => "s3" | .memory => "memory"
  label | .s3 => "S3" | .memory => "Memory"

inductive SecretBackend
  | vault
  | memory
deriving DecidableEq, Repr

instance : Choice SecretBackend where
  subject := "secret store backend"
  options := [.vault, .memory]
  word | .vault => "vault" | .memory => "memory"
  label | .vault => "Vault" | .memory => "Memory"

inductive RegistryBackend
  | http
  | memory
deriving DecidableEq, Repr

instance : Choice RegistryBackend where
  subject := "files API backend"
  options := [.http, .memory]
  word | .http => "http" | .memory => "memory"
  label | .http => "Http" | .memory => "Memory"

/-- Whence the digest of a finished object is taken: the answer to its last part, or a probe of it. -/
inductive CompletionDigest
  | part
  | head
deriving DecidableEq, Repr

instance : Choice CompletionDigest where
  subject := "completion digest mode"
  options := [.part, .head]
  word | .part => "part" | .head => "head"
  label | .part => "Part" | .head => "Head"

end ResumableUpload
