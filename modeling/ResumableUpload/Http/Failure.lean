/-! Failures of a request to an HTTP server. -/

namespace ResumableUpload.Http

inductive TransportError
  -- the request cannot be built: its address or a header is unusable
  | malformed (url : Option String)
  -- no answer came
  | unanswered (url : String)
  -- one redirect too many
  | astray (url : String)
  -- the body of the answer is not the document asked for
  | undecodable
deriving DecidableEq, Repr

def TransportError.message : TransportError → String
  | .malformed none => "builder error"
  | .malformed (some url) => s!"builder error for url ({url})"
  | .unanswered url => s!"error sending request for url ({url})"
  | .astray url => s!"error following redirect for url ({url})"
  | .undecodable => "error decoding response body"

end ResumableUpload.Http
