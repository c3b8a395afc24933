import ResumableUpload.Setting.Choice
import ResumableUpload.Text.Quoted

/-! The settings of a deployment, and what makes them valid. -/

namespace ResumableUpload

structure Config where
  bindAddress : String := "0.0.0.0:25100"
  environment : String := "development"
  storageBackend : StorageBackend := .s3
  region : String := "eu-west-1"
  bucket : String := "testing"
  endpoint : Option String := none
  encryptionDisabled : Bool := false
  completionDigest : Option CompletionDigest := none
  secretBackend : SecretBackend := .vault
  vaultAddress : String := "http://localhost:8200"
  vaultToken : String := ""
  vaultPath : String := "secret/shared/psk"
  registryBackend : RegistryBackend := .http
  registryUrl : String := "http://localhost:26900"
  serviceToken : String := ""
  requestTimeout : UInt64 := 60
  outboundTimeout : UInt64 := 30
  maxChunkBytes : UInt64 := 10485760
  shutdownTimeout : UInt64 := 5
  healthTimeout : UInt64 := 5
deriving DecidableEq, Repr

namespace Config

def encryptionEnabled (c : Config) : Bool := !c.encryptionDisabled

/-- Encrypted parts have no digest of the plain object to probe for, so the last part's is taken. -/
def effectiveDigest (c : Config) : CompletionDigest :=
  c.completionDigest.getD (if c.encryptionDisabled then .head else .part)

def isProduction (c : Config) : Bool :=
  Text.lower c.environment = "production" || Text.lower c.environment = "prod"

inductive Problem
  | unknownWord (setting refusal : String)
  | bucketMissing
  | vaultAddressMissing
  | vaultPathMissing
  | registryUrlMalformed
  | zeroTimeout
  | zeroChunkLimit
deriving DecidableEq, Repr

def Problem.reasons : Problem → List String
  -- the outermost reason comes first
  | .unknownWord setting refusal => [s!"{setting} is invalid", refusal]
  | .bucketMissing => ["UPLOAD_BUCKET_NAME must be set when using S3 storage backend"]
  | .vaultAddressMissing => ["VAULT_ADDR must be set when encryption is enabled"]
  | .vaultPathMissing => ["VAULT_PATH must be set when encryption is enabled"]
  | .registryUrlMalformed => ["FILES_API_URL must be an http:// or https:// URL"]
  | .zeroTimeout => ["timeouts must be greater than zero"]
  | .zeroChunkLimit => ["MAX_CHUNK_BYTES must be greater than zero"]

def isHttpUrl (url : String) : Bool := url.startsWith "http://" || url.startsWith "https://"

def validate (c : Config) : Except Problem Unit := do
  if c.storageBackend = .s3 ∧ Text.trim c.bucket = "" then throw .bucketMissing
  if c.encryptionEnabled ∧ c.secretBackend = .vault then
    if Text.trim c.vaultAddress = "" then throw .vaultAddressMissing
    if Text.trimBy (· = '/') c.vaultPath = "" then throw .vaultPathMissing
  if c.registryBackend = .http ∧ ¬ isHttpUrl c.registryUrl then throw .registryUrlMalformed
  if c.requestTimeout = 0 ∨ c.outboundTimeout = 0 ∨ c.healthTimeout = 0 then throw .zeroTimeout
  if c.maxChunkBytes = 0 then throw .zeroChunkLimit

def describe (c : Config) : String :=
  let withheld := Text.Quoted.text "[REDACTED]"
  let fields := [
    ("bind_addr", Text.Quoted.text c.bindAddress),
    ("environment", Text.Quoted.text c.environment),
    ("storage_backend", Choice.label c.storageBackend),
    ("aws_region", Text.Quoted.text c.region),
    ("upload_bucket_name", Text.Quoted.text c.bucket),
    ("s3_endpoint", match c.endpoint with
      | none => "None"
      | some url => "Some(" ++ Text.Quoted.text url ++ ")"),
    ("encryption_disabled", toString c.encryptionDisabled),
    ("completion_digest", Choice.label c.effectiveDigest),
    ("secret_store_backend", Choice.label c.secretBackend),
    ("vault_addr", Text.Quoted.text c.vaultAddress),
    ("vault_token", withheld),
    ("vault_path", Text.Quoted.text c.vaultPath),
    ("files_api_backend", Choice.label c.registryBackend),
    ("files_api_url", Text.Quoted.text c.registryUrl),
    ("service_auth_token", withheld),
    ("request_timeout_secs", toString c.requestTimeout),
    ("outbound_timeout_secs", toString c.outboundTimeout),
    ("max_chunk_bytes", toString c.maxChunkBytes),
    ("graceful_shutdown_timeout_secs", toString c.shutdownTimeout),
    ("healthcheck_timeout_secs", toString c.healthTimeout)]
  "Config \x7b " ++ ", ".intercalate (fields.map fun (name, value) => name ++ ": " ++ value) ++ " \x7d"

end Config

end ResumableUpload
