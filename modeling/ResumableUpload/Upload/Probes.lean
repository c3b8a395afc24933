import ResumableUpload.File.Status
import ResumableUpload.Upload.Keys

/-! Probes of what is stored of a file. A failure shows in the result of the probe alone. -/

namespace ResumableUpload.Probe

def content (path : String) : Procedure ProbeResult := do
  match ← Procedure.storage (.head path) with
  | .ok head => return if 0 < head.length then .found else .failed "stored object is empty"
  | .error e => return .failed e.message

def key (keyRoot : Option String) (path : String) : Procedure (Option ProbeResult) := do
  match keyRoot with
  | none => return none
  | some root =>
    match ← (Keys.read root path).run with
    | .ok _ => return some .found
    | .error e => return some (.failed e.message)

def metadata (authorization : Option String) (path : String) : Attempt FileMetadata := do
  match ← ExceptT.lift (Procedure.registry (.find authorization path)) with
  | .ok m => return m
  | .error _ => throw (.notRegistered path)

end ResumableUpload.Probe
