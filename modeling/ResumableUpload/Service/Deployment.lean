import ResumableUpload.Activity
import ResumableUpload.File.Health
import ResumableUpload.Form.Decoding
import ResumableUpload.Http.Message
import ResumableUpload.Service.Reply
import ResumableUpload.Service.Route
import ResumableUpload.Setting.Config
import ResumableUpload.Upload.Chunk
import ResumableUpload.Upload.Probes

/-! A deployment of the service: what it answers to requests, over backends of any kind. -/

namespace ResumableUpload

def Config.policy (c : Config) : UploadPolicy where
  keyRoot := if c.encryptionEnabled then some c.vaultPath else none
  digest := c.effectiveDigest

/-- Settings, the addresses of objects, and backends that take calls. -/
structure Deployment (σ : Type) where
  config : Config
  objectUrl : String → String
  perform : (q : Call) → Activity σ q.Answer

namespace Deployment

open Service

variable {σ α : Type}

def carryOut (d : Deployment σ) (p : Procedure α) : Activity σ α := .ofDialogue d.perform p

def attempt (d : Deployment σ) (a : Attempt α) : Activity σ (Except UploadError α) := d.carryOut a.run

def upload (d : Deployment σ) (authorization : Option String) (m : FileMetadata) (c : Chunk) (payload : Bytes) :
    Activity σ (Except UploadError Completion) :=
  d.attempt (Upload.chunk d.config.policy authorization m c payload)

def status (d : Deployment σ) (authorization : Option String) (path : String) :
    Activity σ (Except UploadError Status) := do
  match ← d.attempt (Probe.metadata authorization path) with
  | .error e => return .error e
  | .ok m =>
    let (content, key) ←
      .both (d.carryOut (Probe.content path)) (d.carryOut (Probe.key d.config.policy.keyRoot path))
    return .ok ⟨m, content, key⟩

def milliseconds (seconds : UInt64) : Nat := seconds.toNat * 1000

def withinRequest (d : Deployment σ) (x : Activity σ (Except UploadError α)) :
    Activity σ (Except UploadError α) := do
  match ← x.within (milliseconds d.config.requestTimeout) with
  | none => return .error .timeout
  | some result => return result

def finding (d : Deployment σ) (check : Activity σ (Except String Unit)) : Activity σ String := do
  match ← check.within (milliseconds d.config.healthTimeout) with
  | none => return "timeout"
  | some (.ok ()) => return "healthy"
  | some (.error e) => return s!"unhealthy: {e}"

def checkStorage (d : Deployment σ) : Activity σ (Except String Unit) :=
  (Except.mapError StorageError.message) <$> d.carryOut (Procedure.storage .check)

def checkRegistry (d : Deployment σ) : Activity σ (Except String Unit) :=
  (Except.mapError UploadError.message) <$> d.carryOut (Procedure.registry .check)

def checkSecrets (d : Deployment σ) : Activity σ (Except String Unit) :=
  (Except.mapError UploadError.message) <$> d.attempt Keys.check

def health (d : Deployment σ) : Activity σ Health := do
  let secrets : Activity σ (Option String) :=
    if d.config.encryptionEnabled then some <$> d.finding d.checkSecrets else pure none
  let (storage, registry, secrets) ←
    .both (d.finding d.checkStorage) (.both (d.finding d.checkRegistry) secrets)
  let checks := [("files_api", registry)] ++ (secrets.map (("secret_store", ·))).toList ++ [("storage", storage)]
  let status := if checks.all (·.2 = "healthy") then "healthy" else "unhealthy"
  return ⟨status, .ofList checks⟩

def exposeDetails (d : Deployment σ) : Bool := !d.config.isProduction

def fail (d : Deployment σ) (f : Failure) : Reply := f.reply d.exposeDetails

def formData (limit : Nat) (r : Http.Request) : Except RequestError Http.FormData :=
  match (r.textHeader? "content-type").bind Http.MediaType.boundary? with
  | some boundary => .ok (if limit < r.body.size then .unreadable else Http.FormData.read boundary r.body)
  | none => .error (.parsingForm FormDecoding.badBoundary)

def uploadReply (d : Deployment σ) : Except UploadError Completion → Reply
  | .error e => d.fail (.upload e)
  | .ok .continuing => .bare 200
  | .ok .completed => .bare 201
  | .ok (.unrecorded e) => d.fail (.notification e)

def uploadForm (d : Deployment σ) (authorization : Option String) (data : Http.FormData) : Activity σ Reply :=
  match FormDecoding.read data with
  | .error e => pure (d.fail (.request e))
  | .ok (form, payload) => do
    let result ← d.withinRequest (d.upload authorization form.metadata form.chunk payload)
    return d.uploadReply result

def respondUpload (d : Deployment σ) (limit : Nat) (r : Http.Request) : Activity σ Reply :=
  match formData limit r with
  | .error e => pure (d.fail (.request e))
  | .ok data => d.uploadForm (r.textHeader? "authorization") data

def respondStatus (d : Deployment σ) (r : Http.Request) (path : String) : Activity σ Reply := do
  match ← d.withinRequest (d.status (r.textHeader? "authorization") path) with
  | .error e => return d.fail (.upload e)
  | .ok status => return .json 200 status.toJson

def respondHealth (d : Deployment σ) : Activity σ Reply := do
  let health ← d.health
  return .json (if health.healthy then 200 else 503) health.toJson

def badPath : Reply := .text 400 "Invalid URL: Invalid UTF-8 in \x60path\x60"

def respondRoute (d : Deployment σ) (limit : Nat) (r : Http.Request) : Route → Activity σ Reply
  | .health => d.respondHealth
  | .upload => d.respondUpload limit r
  | .object path =>
    match Route.decodePath? path with
    | some path => pure (.json 200 (.object [("url", .string (d.objectUrl path))]))
    | none => pure badPath
  | .status path =>
    match Route.decodePath? path with
    | some path => d.respondStatus r path
    | none => pure badPath

def respond (d : Deployment σ) (r : Http.Request) : Activity σ Reply := do
  let limit := d.config.maxChunkBytes.toNat
  let announced := r.contentLength?.getD limit
  if limit < announced then return .text 413 "length limit exceeded"
  match Route.ofPath? r.path with
  | none => return .bare 404
  | some route =>
    if r.method ∉ route.methods then
      return { Reply.bare 405 with allow := some (",".intercalate route.methods) }
    let reply ← d.respondRoute announced r route
    return if r.method = "HEAD" then reply.withoutBody else reply

end Deployment

end ResumableUpload
