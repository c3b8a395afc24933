import ResumableUpload.Form.Rules
import ResumableUpload.Http.MediaType
import ResumableUpload.Http.Multipart

/-! The decoding of an upload form from the parts in which it is sent. -/

namespace ResumableUpload.FormDecoding

open Http (FormPart FormData MediaType)

def fileField : String := "file"

def badBoundary : String := "Invalid \x60boundary\x60 for \x60multipart/form-data\x60 request"

def badData : String := "Error parsing \x60multipart/form-data\x60 request"

def noFile : String := "no file part named 'file'"

def severalFiles : String := "multiple file parts; send exactly one field named 'file'"

def collect (closed : Bool) : List FormPart → FormFields → Option Bytes →
    Except RequestError (FormFields × Option Bytes)
  -- goes through the parts in turn: text fields are kept with their values, and there is one file
  | [], fields, file => if closed then .ok (fields, file) else .error (.parsingForm badData)
  | part :: rest, fields, file =>
    if part.name = fileField then
      match file, part.content with
      | some _, _ => .error (.fileForm severalFiles)
      | none, none => .error (.fileForm badData)
      | none, some content => collect closed rest fields (some content)
    else
      match part.content with
      | none => .error (.parsingForm badData)
      | some content => collect closed rest (fields ++ [(part.name, part.textOf content)]) file

def ofFormData (data : FormData) : Except RequestError (FormFields × Option Bytes) :=
  collect data.closed data.parts [] none

def read (data : FormData) : Except RequestError (UploadForm × Bytes) := do
  let (fields, file) ← ofFormData data
  let form ← UploadForm.ofFields fields
  form.check
  match file with
  | some payload => return (form, payload)
  | none => throw (.fileForm noFile)

end ResumableUpload.FormDecoding
