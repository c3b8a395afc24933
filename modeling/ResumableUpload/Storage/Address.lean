import ResumableUpload.Text.Blank

/-! Addresses of stored objects. -/

namespace ResumableUpload.Storage

def pathStyleUrl (region bucket : String) (endpoint : Option String) (key : String) : String :=
  let key := Text.trimStartBy (· = '/') key
  match endpoint with
  | some endpoint => Text.trimEndBy (· = '/') endpoint ++ s!"/{bucket}/{key}"
  | none => s!"https://s3-{region}.amazonaws.com/{bucket}/{key}"

def memoryUrl (bucket path : String) : String := s!"memory://{bucket}/{path}"

end ResumableUpload.Storage
