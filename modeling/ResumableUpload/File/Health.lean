import ResumableUpload.Json.Record
import ResumableUpload.Table

/-! The health document of a service: a verdict, and one finding per check. -/

namespace ResumableUpload

structure Health where
  status : String
  checks : Table String String
deriving DecidableEq, Repr

namespace Health

def healthy (h : Health) : Bool := h.status = "healthy"

def checksOfJson? (j : Json) : Option (Table String String) := do
  let members ← j.object?
  let findings ← members.mapM fun (name, finding) => finding.string?.map (name, ·)
  return .ofList findings

def toJson (h : Health) : Json :=
  .object [
    ("status", .string h.status),
    ("checks", .object (h.checks.entries.map fun (name, finding) => (name, .string finding)))]

def ofJson? (j : Json) : Option Health := do
  let field ← j.record? ["status", "checks"]
  let status ← Json.required Json.string? (field "status")
  let checks ← Json.defaulted ∅ checksOfJson? (field "checks")
  return { status, checks }

end Health

end ResumableUpload
