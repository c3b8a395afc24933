import ResumableUpload.Proofs.Store.Parts
import ResumableUpload.Store.Backends
import ResumableUpload.Upload.Keys
import Mathlib.Logic.Function.Basic

/-! What the backends hold for one path. Every change that they make is a change of one holding. -/

namespace ResumableUpload

structure Holding where
  record : Option FileRecord
  parts : Parts
  object : Option StoredObject
  key : Option String

namespace Holding

def vacant : Holding := ⟨none, ∅, none, none⟩

def uploaded (h : Holding) : Bool := h.record.any fun f => f.state = .uploaded

lemma uploaded_iff {h : Holding} : h.uploaded = true ↔ ∃ f, h.record = some f ∧ f.state = .uploaded := by
  cases hr : h.record <;> simp [uploaded, hr]

def HasKey (h : Holding) (k : EncryptionKey) : Prop := ∃ text, h.key = some text ∧ EncryptionKey.ofHex text = .ok k

end Holding

def Backends.holding (keyRoot : Option String) (b : Backends) (path : String) : Holding where
  record := b.registry.records.get? path
  parts := b.objects.partsOf path
  object := b.objects.objects.get? path
  key := keyRoot.bind fun root => b.secrets.get? (Keys.secretPath root path) Keys.entryName

lemma Keys.secretPath_inj {root p q : String} : secretPath root p = secretPath root q ↔ p = q := by
  constructor
  · intro h
    have hl := congrArg String.toList h
    simp only [secretPath, toString, String.toList_append] at hl
    exact String.toList_inj.mp (List.append_cancel_left hl)
  · exact congrArg _

namespace ObjectStore

lemma partsOf_insert (s : ObjectStore) (path q : String) (parts : Parts) :
    partsOf { s with pending := s.pending.insert path parts } q = if q = path then parts else s.partsOf q := by
  rw [partsOf]
  rw [Table.get?_insert]
  split <;> rfl

lemma partsOf_erase (s : ObjectStore) (path q : String) (objects : Table String StoredObject) :
    partsOf ⟨s.pending.erase path, objects⟩ q = if q = path then ∅ else s.partsOf q := by
  rw [partsOf]
  rw [Table.get?_erase]
  split <;> rfl

variable {c : Chunk} {payload body : Bytes} {key : Option EncryptionKey}

lemma put_of_body (s : ObjectStore) (path : String) (hs : c.SizeAdmissible payload.size) (hb : c.body payload key = .ok body) :
    s.put path c payload key = (.ok (s.place path c body).1, (s.place path c body).2) := by
  rw [put, Chunk.checkSize, if_pos hs]
  dsimp only
  rw [hb]

lemma put_refused (h : ¬ c.SizeAdmissible payload.size ∨ ∃ e, c.body payload key = .error e) (path : String) :
    ∃ e, ∀ s : ObjectStore, s.put path c payload key = (.error e, s) := by
  by_cases hs : c.SizeAdmissible payload.size
  · obtain ⟨e, hb⟩ := h.resolve_left (not_not_intro hs)
    refine ⟨e, fun s => ?_⟩
    rw [put, Chunk.checkSize, if_pos hs]
    dsimp only
    rw [hb]
  · refine ⟨.chunkTooSmall payload.size minChunkSize, fun s => ?_⟩
    rw [put, Chunk.checkSize, if_neg hs]

lemma exists_body_of_put {s s' : ObjectStore} {path : String} {receipt : PartReceipt}
    (h : s.put path c payload key = (.ok receipt, s')) :
    c.SizeAdmissible payload.size ∧ ∃ body, c.body payload key = .ok body ∧ (receipt, s') = s.place path c body := by
  by_cases hs : c.SizeAdmissible payload.size
  · cases hb : c.body payload key with
    | error e =>
      obtain ⟨_, hput⟩ := put_refused (.inr ⟨e, hb⟩) path
      cases h.symm.trans (hput s)
    | ok body =>
      cases h.symm.trans (put_of_body s path hs hb)
      exact ⟨hs, body, rfl, rfl⟩
  · obtain ⟨_, hput⟩ := put_refused (.inl hs) path
    cases h.symm.trans (hput s)

end ObjectStore

namespace Backends

variable {keyRoot : Option String} (b : Backends) (path : String)

lemma holding_insert_record (registry : FileRegistry) (f : FileRecord)
    (h : registry.records = b.registry.records.insert path f) :
    ({ b with registry } : Backends).holding keyRoot =
      Function.update (b.holding keyRoot) path { b.holding keyRoot path with record := some f } := by
  funext q
  by_cases hq : q = path
  · subst q
    simp [holding, h, Table.get?_insert]
  · simp [holding, h, Table.get?_insert, hq]

lemma holding_insert_parts (parts : Parts) :
    ({ b with objects := { b.objects with pending := b.objects.pending.insert path parts } } : Backends).holding
        keyRoot = Function.update (b.holding keyRoot) path { b.holding keyRoot path with parts } := by
  funext q
  by_cases hq : q = path
  · subst q
    simp [holding, ObjectStore.partsOf_insert]
  · simp [holding, ObjectStore.partsOf_insert, hq]

lemma holding_insert_object (o : StoredObject) :
    ({ b with objects := ⟨b.objects.pending.erase path, b.objects.objects.insert path o⟩ } : Backends).holding
        keyRoot = Function.update (b.holding keyRoot) path
          { b.holding keyRoot path with parts := ∅, object := some o } := by
  funext q
  by_cases hq : q = path
  · subst q
    simp [holding, ObjectStore.partsOf_erase, Table.get?_insert]
  · simp [holding, ObjectStore.partsOf_erase, Table.get?_insert, hq]

lemma holding_write_key (root text : String) :
    ({ b with secrets := b.secrets.write (Keys.secretPath root path) Keys.entryName text } : Backends).holding
        (some root) = Function.update (b.holding (some root)) path
          { b.holding (some root) path with key := some text } := by
  funext q
  by_cases hq : q = path
  · subst q
    simp [holding, SecretStore.write, SecretStore.get?, Table.get?_insert]
  · simp [holding, SecretStore.write, SecretStore.get?, Table.get?_insert, Keys.secretPath_inj, hq]

end Backends

end ResumableUpload
