import ResumableUpload.Failure.ErrorList

/-! Faults of an upload request that are found before anything is stored. -/

namespace ResumableUpload

inductive RequestError
  | parsingForm (detail : String)
  | fileForm (detail : String)
  | validation (errors : List ErrorEntry)
deriving DecidableEq, Repr

namespace RequestError

def message : RequestError → String
  | .parsingForm detail => s!"error parsing form: {detail}"
  | .fileForm detail => s!"error getting file from form: {detail}"
  | .validation _ => "form validation failed"

def errorList : RequestError → ErrorList
  | .parsingForm detail => .single "ParsingForm" (RequestError.parsingForm detail).message
  | .fileForm detail => .single "FileForm" (RequestError.fileForm detail).message
  | .validation errors => ⟨errors⟩

end RequestError

end ResumableUpload
