import ResumableUpload.Store.Objects
import ResumableUpload.Store.Registry
import ResumableUpload.Store.Secrets

/-! The backends of a deployment that keeps everything in memory, with the keys it is going to hand out. -/

namespace ResumableUpload

structure Backends where
  objects : ObjectStore
  registry : FileRegistry
  secrets : SecretStore
  -- what the source of keys gives, one after the other
  keys : List (Except String EncryptionKey)

namespace Backends

def spareKey : EncryptionKey := ⟨(List.range 16).map UInt8.ofNat⟩

def withKeys (keys : List (Except String EncryptionKey)) : Backends := ⟨.empty, .empty, .empty, keys⟩

def respond : (c : Call) → Backends → c.Answer × Backends
  | .storage c, b => let (answer, objects) := ObjectStore.respond c b.objects; (answer, { b with objects })
  | .registry c, b => let (answer, registry) := FileRegistry.respond c b.registry; (answer, { b with registry })
  | .secret c, b => let (answer, secrets) := SecretStore.respond c b.secrets; (answer, { b with secrets })
  | .freshKey, b =>
    match b.keys with
    | [] => (.ok spareKey, b)
    | key :: keys => (key, { b with keys })

end Backends

end ResumableUpload
