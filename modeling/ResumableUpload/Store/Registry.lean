import ResumableUpload.Call
import ResumableUpload.Table

/-! A file registry in memory. Paths are unique, and a file is marked as uploaded once. -/

namespace ResumableUpload

inductive FileState
  | created
  | uploaded
deriving DecidableEq, Repr

structure FileRecord where
  metadata : FileMetadata
  state : FileState
  etag : Option String
deriving DecidableEq, Repr

structure FileRegistry where
  records : Table String FileRecord
  registrations : Nat
  marks : Nat

namespace FileRegistry

def empty : FileRegistry := ⟨∅, 0, 0⟩

def register (r : FileRegistry) (m : FileMetadata) : Except UploadError Unit × FileRegistry :=
  let r := { r with registrations := r.registrations + 1 }
  match r.records.get? m.path with
  | some _ => (.error .duplicateFile, r)
  | none => (.ok (), { r with records := r.records.insert m.path ⟨m, .created, none⟩ })

def mark (r : FileRegistry) (path etag : String) : Except UploadError Unit × FileRegistry :=
  let r := { r with marks := r.marks + 1 }
  match r.records.get? path with
  | none => (.error (.fileNotFound path), r)
  | some ⟨_, .uploaded, _⟩ => (.error (.stateConflict path), r)
  | some ⟨m, .created, _⟩ => (.ok (), { r with records := r.records.insert path ⟨m, .uploaded, some etag⟩ })

def find (r : FileRegistry) (path : String) : Except UploadError FileMetadata :=
  match r.records.get? path with
  | some file => .ok file.metadata
  | none => .error (.fileNotFound path)

def respond : (c : RegistryCall) → FileRegistry → c.Answer × FileRegistry
  | .register _ m, r => r.register m
  | .mark _ path etag, r => r.mark path etag
  | .find _ path, r => (r.find path, r)
  | .check, r => (.ok (), r)

end FileRegistry

end ResumableUpload
