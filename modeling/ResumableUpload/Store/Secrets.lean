import ResumableUpload.Call
import ResumableUpload.Table

/-! A secret store in memory: entries have a name under a path. -/

namespace ResumableUpload

structure SecretStore where
  entries : Table (String × String) String
  writes : Nat

namespace SecretStore

def empty : SecretStore := ⟨∅, 0⟩

def get? (s : SecretStore) (path name : String) : Option String := s.entries.get? (path, name)

def write (s : SecretStore) (path name value : String) : SecretStore :=
  ⟨s.entries.insert (path, name) value, s.writes + 1⟩

def read (s : SecretStore) (path name : String) : Except SecretError String :=
  match s.get? path name with
  | some value => .ok value
  | none => .error (.notFound s!"{path}#{name}")

def respond : (c : SecretCall) → SecretStore → c.Answer × SecretStore
  | .write path name value, s => (.ok (), s.write path name value)
  | .read path name, s => (s.read path name, s)
  | .check, s => (.ok (), s)

end SecretStore

end ResumableUpload
