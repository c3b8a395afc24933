import ResumableUpload.Service.Deployment
import ResumableUpload.Storage.Address
import ResumableUpload.Store.Backends

/-! Rehearsals: a deployment in memory whose backends are told when to be slow and what to fail with, and
which keeps a record of the calls made on them. -/

namespace ResumableUpload

structure Fault (α : Type) where
  delay : Nat
  answer : Option α

def Fault.none {α : Type} : Fault α := ⟨0, .none⟩

structure Faults where
  put : List (Fault (Except StorageError PartReceipt))
  head : List (Fault (Except StorageError ObjectHead))
  storageCheck : List (Fault (Except StorageError Unit))
  register : List (Fault (Except UploadError Unit))
  mark : List (Fault (Except UploadError Unit))
  find : List (Fault (Except UploadError FileMetadata))
  registryCheck : List (Fault (Except UploadError Unit))
  write : List (Fault (Except SecretError Unit))
  read : List (Fault (Except SecretError String))
  secretCheck : List (Fault (Except SecretError Unit))

namespace Faults

def next : (c : Call) → Faults → Fault c.Answer × Faults
  | .storage (.put ..), f => (f.put.headD .none, { f with put := f.put.tail })
  | .storage (.head _), f => (f.head.headD .none, { f with head := f.head.tail })
  | .storage .check, f => (f.storageCheck.headD .none, { f with storageCheck := f.storageCheck.tail })
  | .registry (.register ..), f => (f.register.headD .none, { f with register := f.register.tail })
  | .registry (.mark ..), f => (f.mark.headD .none, { f with mark := f.mark.tail })
  | .registry (.find ..), f => (f.find.headD .none, { f with find := f.find.tail })
  | .registry .check, f => (f.registryCheck.headD .none, { f with registryCheck := f.registryCheck.tail })
  | .secret (.write ..), f => (f.write.headD .none, { f with write := f.write.tail })
  | .secret (.read ..), f => (f.read.headD .none, { f with read := f.read.tail })
  | .secret .check, f => (f.secretCheck.headD .none, { f with secretCheck := f.secretCheck.tail })
  | .freshKey, f => (.none, f)

end Faults

structure Rehearsal where
  backends : Backends
  faults : Faults
  calls : List Call

namespace Rehearsal

def start (keys : List (Except String EncryptionKey)) (faults : Faults) : Moment Rehearsal :=
  ⟨0, ⟨.withKeys keys, faults, []⟩⟩

def announce (c : Call) (r : Rehearsal) : Fault c.Answer × Rehearsal :=
  let (fault, faults) := Faults.next c r.faults
  (fault, { r with faults, calls := c :: r.calls })

def respond (c : Call) (r : Rehearsal) : c.Answer × Rehearsal :=
  let (answer, backends) := Backends.respond c r.backends
  (answer, { r with backends })

def perform (c : Call) : Activity Rehearsal c.Answer := do
  let fault ← .act (announce c)
  .wait fault.delay
  match fault.answer with
  | some answer => return answer
  | none => .act (respond c)

def deployment (config : Config) : Deployment Rehearsal where
  config
  objectUrl := Storage.memoryUrl config.bucket
  perform

def takeCalls (m : Moment Rehearsal) : List Call × Moment Rehearsal :=
  (m.world.calls.reverse, { m with world := { m.world with calls := [] } })

end Rehearsal

end ResumableUpload
