import ResumableUpload.Failure.ErrorList
import ResumableUpload.Http.Failure

/-! Failures that a client of the upload service reports. -/

namespace ResumableUpload.Client

inductive ClientError
  | fileTooLarge (size maxBytes : UInt64)
  | emptyFile
  | refused (status : Nat) (errors : ErrorList)
  | transport (e : Http.TransportError)
  | contentEnded
deriving DecidableEq, Repr

namespace ClientError

def message : ClientError → String
  | .fileTooLarge size maxBytes => s!"file too large: {size} bytes, max file size: {maxBytes} bytes"
  | .emptyFile => "file is empty"
  | .refused status errors =>
    s!"API error: status code {status}" ++
      String.join (errors.errors.map fun e => s!"\n  - code: {e.code}, description: {e.description}")
  | .transport e => s!"request failed: {e.message}"
  | .contentEnded => "failed to read file content: early eof"

def code? : ClientError → Option String
  | .refused _ errors => errors.firstCode?
  | _ => none

end ClientError

end ResumableUpload.Client
