import ResumableUpload.Setting.Config
import ResumableUpload.Text.Decimal

/-! Settings taken from environment variables. -/

namespace ResumableUpload.Config

abbrev Environment := String → Option String

def textOr (env : Environment) (setting fallback : String) : String := (env setting).getD fallback

def numberOr (env : Environment) (setting : String) (fallback : UInt64) : UInt64 :=
  ((env setting).bind fun s => Text.Decimal.readUInt64? (Text.trim s)).getD fallback

def chosen? {α : Type} [Choice α] (env : Environment) (setting : String) : Except Problem (Option α) :=
  match (env setting).map Text.trim with
  | none => .ok none
  | some "" => .ok none
  | some given =>
    match Choice.read? given with
    | some a => .ok (some a)
    | none => .error (.unknownWord setting (Choice.refusal α given))

def ofEnvironment (env : Environment) : Except Problem Config := do
  let d : Config := {}
  let storageBackend ← chosen? env "STORAGE_BACKEND"
  let completionDigest ← chosen? env "COMPLETION_DIGEST"
  let secretBackend ← chosen? env "SECRET_STORE_BACKEND"
  let registryBackend ← chosen? env "FILES_API_BACKEND"
  let config : Config := {
    bindAddress := textOr env "BIND_ADDR" d.bindAddress
    environment := textOr env "ENVIRONMENT" (textOr env "APP_ENV" d.environment)
    storageBackend := storageBackend.getD d.storageBackend
    region := textOr env "AWS_REGION" d.region
    bucket := textOr env "UPLOAD_BUCKET_NAME" d.bucket
    endpoint := (env "S3_ENDPOINT" <|> env "LOCALSTACK_HOST").filter (· ≠ "")
    encryptionDisabled := (env "ENCRYPTION_DISABLED").map Text.lower = some "true"
    completionDigest
    secretBackend := secretBackend.getD d.secretBackend
    vaultAddress := textOr env "VAULT_ADDR" d.vaultAddress
    vaultToken := textOr env "VAULT_TOKEN" d.vaultToken
    vaultPath := textOr env "VAULT_PATH" d.vaultPath
    registryBackend := registryBackend.getD d.registryBackend
    registryUrl := textOr env "FILES_API_URL" d.registryUrl
    serviceToken := textOr env "SERVICE_AUTH_TOKEN" d.serviceToken
    requestTimeout := numberOr env "REQUEST_TIMEOUT_SECS" d.requestTimeout
    outboundTimeout := numberOr env "OUTBOUND_TIMEOUT_SECS" d.outboundTimeout
    maxChunkBytes := numberOr env "MAX_CHUNK_BYTES" d.maxChunkBytes
    shutdownTimeout := numberOr env "GRACEFUL_SHUTDOWN_TIMEOUT_SECS" d.shutdownTimeout
    healthTimeout := numberOr env "HEALTHCHECK_TIMEOUT_SECS" d.healthTimeout }
  config.validate
  return config

end ResumableUpload.Config
