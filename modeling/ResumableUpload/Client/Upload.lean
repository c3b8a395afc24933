import ResumableUpload.Client.Chunking
import ResumableUpload.Client.Failure
import ResumableUpload.File.Health
import ResumableUpload.File.Status
import ResumableUpload.Http.Exchange

/-! A client of the upload service: it sends files in chunks, and asks for their status. -/

namespace ResumableUpload

structure UploadClient where
  base : String
  serviceToken : String
  florenceToken : Option String
  chunking : Client.Chunking

namespace UploadClient

open Client (Build ClientError Panic)
open Http (Exchange FormField Response TransportError)

def ofAddress (address serviceToken : String) (florenceToken : Option String) (chunking : Client.Chunking) :
    UploadClient :=
  ⟨Text.trimEndBy (· = '/') address, serviceToken, florenceToken, chunking⟩

def credentials (c : UploadClient) : List (String × String) :=
  (if c.serviceToken = "" then [] else [Http.bearer c.serviceToken]) ++
    ((c.florenceToken.filter (· ≠ "")).map (("x-florence-token", ·))).toList

def uploadForm (m : FileMetadata) (current total : Nat) (bytes : Bytes) : List FormField :=
  [.text "path" m.path,
    .text "isPublishable" (toString m.isPublishable),
    .text "title" m.title,
    .text "licence" m.licence,
    .text "licenceUrl" m.licenceUrl,
    .text "resumableType" m.contentType,
    .text "resumableTotalSize" (toString m.sizeInBytes.toNat),
    .text "resumableChunkNumber" (toString current),
    .text "resumableTotalChunks" (toString total),
    .text "resumableFilename" m.fileName] ++
  (m.collectionId.map (FormField.text "collectionId")).toList ++
  (m.bundleId.map (FormField.text "bundleId")).toList ++
  (match m.contentItem with
    | none => []
    | some item =>
      [.text "datasetId" item.datasetId, .text "edition" item.edition, .text "version" item.version]) ++
  [⟨"file", some m.fileName, bytes⟩]

def refusal (response : Response) : ClientError :=
  let errors := (Json.read? response.text).bind ErrorList.ofJson?
  .refused response.status (errors.getD ⟨[]⟩)

def next? (content : Bytes) (position length : Nat) : Option Bytes :=
  if position + length ≤ content.size then some (content.extract position (position + length)) else none

def ofUpload : Except TransportError Response → Except ClientError Unit
  | .error e => .error (.transport e)
  | .ok response => if response.status = 200 ∨ response.status = 201 then .ok () else .error (refusal response)

def sendChunk (c : UploadClient) (m : FileMetadata) (current total : Nat) (bytes : Bytes) :
    Exchange (Except ClientError Unit) :=
  ofUpload <$> Http.send "POST" (c.base ++ "/upload-new") c.credentials (.form (uploadForm m current total bytes))

def sendChunks (c : UploadClient) (m : FileMetadata) (content : Bytes) (total : UInt32) :
    Nat → Nat → Exchange (Except ClientError Unit)
  -- sends the last `left` of `total` chunks in order, up to the first that is not taken; the content is read on from
  -- a position
  | 0, _ => .done (.ok ())
  | left + 1, position =>
    let current := total - .ofNat left
    let length := (c.chunking.length m.sizeInBytes current).toNat
    match next? content position length with
    | none => .done (.error .contentEnded)
    | some bytes => do
      match ← c.sendChunk m current.toNat total.toNat bytes with
      | .error e => return .error e
      | .ok () => c.sendChunks m content total left (position + length)

def upload (c : UploadClient) (b : Build) (m : FileMetadata) (content : Bytes) :
    Except Panic (Exchange (Except ClientError Unit)) :=
  let size := m.sizeInBytes
  (c.chunking.maxFileSize? b).bind fun limit =>
    if limit < size then .ok (.done (.error (.fileTooLarge size limit)))
    else if size = 0 then .ok (.done (.error .emptyFile))
    else
      match c.chunking.totalChunks? size with
      | none => .error .division
      | some total => .ok (c.sendChunks m content total total.toNat 0)

def ofStatus : Except TransportError Response → Except ClientError Status
  | .error e => .error (.transport e)
  | .ok response =>
    if response.isSuccess then (response.json? Status.ofJson?).mapError .transport else .error (refusal response)

def status (c : UploadClient) (path : String) : Exchange (Except ClientError Status) :=
  let url := c.base ++ "/status/" ++ Text.trimStartBy (· = '/') path
  ofStatus <$> Http.send "GET" url c.credentials .empty

def ofHealth : Except TransportError Response → Except ClientError Health
  | .error e => .error (.transport e)
  | .ok response =>
    if response.isSuccess ∨ response.status = 503 then (response.json? Health.ofJson?).mapError .transport
    else .error (refusal response)

def health (c : UploadClient) : Exchange (Except ClientError Health) :=
  ofHealth <$> Http.send "GET" (c.base ++ "/health") [] .empty

end UploadClient

end ResumableUpload
