import ResumableUpload.Failure.Request
import ResumableUpload.Failure.Upload

/-! The answers of the service, and how failures become answers. -/

namespace ResumableUpload.Service

inductive Content
  | empty
  | text (s : String)
  | json (j : Json)
deriving Repr

structure Reply where
  status : Nat
  contentType : Option String
  content : Content
  allow : Option String
deriving Repr

namespace Reply

def bare (status : Nat) : Reply := ⟨status, none, .empty, none⟩

def json (status : Nat) (j : Json) : Reply := ⟨status, some "application/json", .json j, none⟩

def text (status : Nat) (s : String) : Reply := ⟨status, some "text/plain; charset=utf-8", .text s, none⟩

def withoutBody (r : Reply) : Reply := { r with content := .empty }

end Reply

inductive Failure
  | request (e : RequestError)
  | upload (e : UploadError)
  | notification (e : UploadError)
deriving DecidableEq, Repr

def describe (e : UploadError) (exposeDetails : Bool) : String :=
  if exposeDetails ∧ e.sensitive = false then e.message else e.clientMessage

namespace Failure

def uploadReply (e : UploadError) (exposeDetails : Bool) : Reply :=
  .json e.presentation.status (ErrorList.single e.presentation.code (describe e exposeDetails)).toJson

def reply (exposeDetails : Bool) : Failure → Reply
  | .request e => .json 400 e.errorList.toJson
  | .upload e => uploadReply e exposeDetails
  | .notification (.stateConflict path) => uploadReply (.stateConflict path) exposeDetails
  | .notification e =>
    let description := s!"file stored but not marked uploaded ({describe e exposeDetails}); resend the final chunk to retry"
    .json 500 (ErrorList.single "NotificationFailed" description).toJson

end Failure

end ResumableUpload.Service
