/-! Failures of the secret store. -/

namespace ResumableUpload

inductive SecretError
  | notFound (detail : String)
  | network (detail : String)
  | provider (detail : String)
deriving DecidableEq, Repr

def SecretError.message : SecretError → String
  | .notFound detail => s!"Secret not found: {detail}"
  | .network detail => s!"Network error: {detail}"
  | .provider detail => s!"Secret store error: {detail}"

end ResumableUpload
