import ResumableUpload.Bytes
import ResumableUpload.Text.Percent
import ResumableUpload.Text.Utf8

/-! The addresses that the service knows. -/

namespace ResumableUpload.Service

inductive Route
  | health
  | upload
  | object (path : String)
  | status (path : String)
deriving DecidableEq, Repr

namespace Route

def after? (start s : List Char) : Option String :=
  if start.isPrefixOf s ∧ start.length < s.length then some (String.ofList (s.drop start.length)) else none

def ofPath? (path : String) : Option Route :=
  if path = "/health" then some .health
  else if path = "/upload-new" then some .upload
  else
    ((after? "/upload/".toList path.toList).map .object) <|>
      ((after? "/status/".toList path.toList).map .status)

def methods : Route → List String
  | .upload => ["POST"]
  | _ => ["GET", "HEAD"]

def decodePath? (path : String) : Option String :=
  Text.Utf8.decode? (.ofList (Text.Percent.decode (Text.Utf8.encode path)))

end Route

end ResumableUpload.Service
