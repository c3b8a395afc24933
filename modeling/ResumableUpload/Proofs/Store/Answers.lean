import ResumableUpload.Proofs.Store.Holding

/-! What the backends answer, as far as it is decided by what they hold for a path. -/

namespace ResumableUpload.Backends

variable {keyRoot : Option String} {b : Backends} {path : String} {c : Chunk} {payload body : Bytes}
  {key : Option EncryptionKey} {auth : Option String} {m : FileMetadata} {o : StoredObject} {f : FileRecord}

lemma respond_head_of_some (ho : (b.holding keyRoot path).object = some o) :
    respond (.storage (.head path)) b = (.ok ⟨o.content.size, some o.etag⟩, b) := by
  have ho : b.objects.objects.get? path = some o := ho
  simp only [respond, ObjectStore.respond, ObjectStore.head, ho]

lemma respond_head_of_none (ho : (b.holding keyRoot path).object = none) :
    respond (.storage (.head path)) b = (.error (.notFound path), b) := by
  have ho : b.objects.objects.get? path = none := ho
  simp only [respond, ObjectStore.respond, ObjectStore.head, ho]

lemma respond_put (hs : c.SizeAdmissible payload.size) (hb : c.body payload key = .ok body) :
    respond (.storage (.put path c payload key)) b =
      (.ok (b.objects.place path c body).1, { b with objects := (b.objects.place path c body).2 }) := by
  simp only [respond, ObjectStore.respond, ObjectStore.put_of_body _ _ hs hb]

lemma respond_put_refused (h : ¬ c.SizeAdmissible payload.size ∨ ∃ e, c.body payload key = .error e) (path : String) :
    ∃ e, ∀ b, respond (.storage (.put path c payload key)) b = (.error e, b) := by
  obtain ⟨e, hput⟩ := ObjectStore.put_refused h path
  exact ⟨e, fun b => by simp only [respond, ObjectStore.respond, hput]⟩

lemma place_of_lt (hc : ((b.holding keyRoot path).parts.insert c.current body).count < c.total) :
    b.objects.place path c body = (⟨false, ObjectStore.partTag body⟩, { b.objects with
      pending := b.objects.pending.insert path ((b.holding keyRoot path).parts.insert c.current body) }) :=
  if_pos hc

lemma place_of_le (hc : c.total ≤ ((b.holding keyRoot path).parts.insert c.current body).count)
    (ho : o = let parts := (b.holding keyRoot path).parts.insert c.current body
      ⟨parts.assembled, ObjectStore.objectTag parts.assembled parts.count⟩) :
    b.objects.place path c body =
      (⟨true, o.etag⟩, ⟨b.objects.pending.erase path, b.objects.objects.insert path o⟩) := by
  subst ho
  exact if_neg (Nat.not_lt.mpr hc)

lemma respond_register_of_none (hr : (b.holding keyRoot m.path).record = none) :
    respond (.registry (.register auth m)) b = (.ok (), { b with registry := { b.registry with
      registrations := b.registry.registrations + 1
      records := b.registry.records.insert m.path ⟨m, .created, none⟩ } }) := by
  have hr : b.registry.records.get? m.path = none := hr
  simp only [respond, FileRegistry.respond, FileRegistry.register, hr]

lemma respond_register_of_some (hr : (b.holding keyRoot m.path).record = some f) :
    respond (.registry (.register auth m)) b = (.error .duplicateFile,
      { b with registry := { b.registry with registrations := b.registry.registrations + 1 } }) := by
  have hr : b.registry.records.get? m.path = some f := hr
  simp only [respond, FileRegistry.respond, FileRegistry.register, hr]

lemma respond_mark_of_created {old : Option String} {etag : String}
    (hr : (b.holding keyRoot path).record = some ⟨m, .created, old⟩) :
    respond (.registry (.mark auth path etag)) b = (.ok (), { b with registry := { b.registry with
      marks := b.registry.marks + 1
      records := b.registry.records.insert path ⟨m, .uploaded, some etag⟩ } }) := by
  have hr : b.registry.records.get? path = some ⟨m, .created, old⟩ := hr
  simp only [respond, FileRegistry.respond, FileRegistry.mark, hr]

lemma respond_mark_of_none {etag : String} (hr : (b.holding keyRoot path).record = none) :
    respond (.registry (.mark auth path etag)) b = (.error (.fileNotFound path),
      { b with registry := { b.registry with marks := b.registry.marks + 1 } }) := by
  have hr : b.registry.records.get? path = none := hr
  simp only [respond, FileRegistry.respond, FileRegistry.mark, hr]

lemma respond_mark_of_uploaded {etag : String} (hr : (b.holding keyRoot path).record = some f)
    (hu : f.state = .uploaded) :
    respond (.registry (.mark auth path etag)) b = (.error (.stateConflict path),
      { b with registry := { b.registry with marks := b.registry.marks + 1 } }) := by
  obtain ⟨m, state, old⟩ := f
  obtain rfl : state = .uploaded := hu
  have hr : b.registry.records.get? path = some ⟨m, .uploaded, old⟩ := hr
  simp only [respond, FileRegistry.respond, FileRegistry.mark, hr]

lemma respond_find_of_some (hr : (b.holding keyRoot path).record = some f) :
    respond (.registry (.find auth path)) b = (.ok f.metadata, b) := by
  have hr : b.registry.records.get? path = some f := hr
  simp only [respond, FileRegistry.respond, FileRegistry.find, hr]

lemma respond_find_of_none (hr : (b.holding keyRoot path).record = none) :
    respond (.registry (.find auth path)) b = (.error (.fileNotFound path), b) := by
  have hr : b.registry.records.get? path = none := hr
  simp only [respond, FileRegistry.respond, FileRegistry.find, hr]

lemma respond_read {root text : String} (hk : (b.holding (some root) path).key = some text) :
    respond (.secret (.read (Keys.secretPath root path) Keys.entryName)) b = (.ok text, b) := by
  have hk : b.secrets.get? (Keys.secretPath root path) Keys.entryName = some text := hk
  simp only [respond, SecretStore.respond, SecretStore.read, hk]

lemma respond_read_of_none {root : String} (hk : (b.holding (some root) path).key = none) :
    respond (.secret (.read (Keys.secretPath root path) Keys.entryName)) b =
      (.error (.notFound s!"{Keys.secretPath root path}#{Keys.entryName}"), b) := by
  have hk : b.secrets.get? (Keys.secretPath root path) Keys.entryName = none := hk
  simp only [respond, SecretStore.respond, SecretStore.read, hk]

lemma holding_freshKey (keyRoot : Option String) (b : Backends) :
    (respond .freshKey b).2.holding keyRoot = b.holding keyRoot := by
  simp only [respond]
  split
  · rfl
  · rfl

lemma respond_freshKey {k : EncryptionKey} (h : (respond .freshKey b).1 = .ok k) (registry : FileRegistry) :
    ∃ keys, respond .freshKey { b with registry } = (.ok k, { b with registry, keys }) := by
  obtain ⟨objects, old, secrets, keys⟩ := b
  cases keys with
  | nil => exact ⟨[], by rw [← h]; rfl⟩
  | cons first rest => exact ⟨rest, by rw [← h]; rfl⟩

end ResumableUpload.Backends
