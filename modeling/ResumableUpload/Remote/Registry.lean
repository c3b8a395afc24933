import ResumableUpload.Call
import ResumableUpload.Failure.ErrorList
import ResumableUpload.Http.Exchange
import ResumableUpload.Json.Writer

/-! A file registry that is reached over HTTP. -/

namespace ResumableUpload

structure RemoteRegistry where
  base : String
  token : String

namespace RemoteRegistry

open Http (Exchange Payload Response TransportError)

def ofAddress (address token : String) : RemoteRegistry := ⟨Text.trimEndBy (· = '/') address, token⟩

def fileUrl (r : RemoteRegistry) (path : String) : String :=
  s!"{r.base}/files/" ++ Text.trimStartBy (· = '/') path

def credentials (r : RemoteRegistry) (authorization : Option String) : List (String × String) :=
  match authorization.filter (· ≠ "") with
  | some value => [("authorization", value)]
  | none => if r.token = "" then [] else [Http.bearer r.token]

def unexpected (status : Nat) : UploadError := .unknown s!"files API returned status {Http.Status.text status}"

def ofErrors (errors : ErrorList) : UploadError :=
  match errors.firstCode? with
  | some "DuplicateFileError" => .duplicateFile
  | some "ValidationError" => .rejected errors.text
  | some other => .unknown s!"files API error code {other}"
  | none => .unknown "files API returned 400 without errors"

def badRequest (response : Response) : UploadError :=
  match response.json? ErrorList.ofJson? with
  | .ok errors => ofErrors errors
  | .error e => .unknown s!"unreadable error body: {e.message}"

def ofRegistration : Except TransportError Response → Except UploadError Unit
  | .error e => .error (.connection e.message)
  | .ok response =>
    if response.isSuccess then .ok ()
    else if response.status = 400 then .error (badRequest response)
    else if response.status = 403 then .error .unauthorised
    else if response.status = 500 then .error .registryFault
    else .error (unexpected response.status)

def ofMark (path : String) : Except TransportError Response → Except UploadError Unit
  | .error e => .error (.connection e.message)
  | .ok response =>
    if response.isSuccess then .ok ()
    else if response.status = 404 then .error (.fileNotFound path)
    else if response.status = 409 then .error (.stateConflict path)
    else if response.status = 403 then .error .unauthorised
    else if response.status = 500 then .error .registryFault
    else .error (unexpected response.status)

def ofFind (path : String) : Except TransportError Response → Except UploadError FileMetadata
  | .error _ => .error (.fileNotFound path)
  | .ok response =>
    if response.isSuccess then (response.json? FileMetadata.ofJson?).mapError fun _ => .fileNotFound path
    else .error (.fileNotFound path)

def ofCheck : Except TransportError Response → Except UploadError Unit
  | .error e => .error (.connection e.message)
  | .ok response =>
    if response.isSuccess then .ok ()
    else .error (.unknown s!"files API health returned status {Http.Status.text response.status}")

def markDocument (etag : String) : Json := .object [("state", .string "UPLOADED"), ("etag", .string etag)]

def respond (r : RemoteRegistry) : (c : RegistryCall) → Exchange c.Answer
  | .register authorization m =>
    ofRegistration <$> Http.send "POST" s!"{r.base}/files" (r.credentials authorization) (.json m.toJson)
  | .mark authorization path etag =>
    ofMark path <$> Http.send "PATCH" (r.fileUrl path) (r.credentials authorization) (.json (markDocument etag))
  | .find authorization path => ofFind path <$> Http.send "GET" (r.fileUrl path) (r.credentials authorization) .empty
  | .check => ofCheck <$> Http.send "GET" s!"{r.base}/health" [] .empty

end RemoteRegistry

end ResumableUpload
