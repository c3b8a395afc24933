import ResumableUpload.Proofs.Store.Holding
import ResumableUpload.Proofs.Upload.Stage

/-! The effect of one call of an upload: to which stage its answer leads, and what becomes of the holding of
its path. Holdings of other paths stay as they are. -/

namespace ResumableUpload

def Call.IsFailure : (q : Call) → q.Answer → Prop
  | .storage (.put ..), a => ∃ e, a = .error e
  | .storage (.head _), a => ∃ e, a = .error e
  | .storage .check, a => ∃ e, a = .error e
  | .registry (.register ..), a => ∃ e, a = .error e
  | .registry (.mark ..), a => ∃ e, a = .error e
  | .registry (.find ..), a => ∃ e, a = .error e
  | .registry .check, a => ∃ e, a = .error e
  | .secret (.write ..), a => ∃ e, a = .error e
  | .secret (.read ..), a => ∃ e, a = .error e
  | .secret .check, a => ∃ e, a = .error e
  | .freshKey, a => ∃ e, a = .error e

namespace Upload

/-- `forced` holds of an answer that was given in place of the backend. -/
inductive Turn (policy : UploadPolicy) (r : Request) (forced : Prop) :
    Stage → Holding → (q : Call) → q.Answer → Stage → Holding → Prop
  | found {h : Holding} {o : StoredObject} : h.object = some o →
      Turn policy r forced .probe h (.storage (.head r.path)) (.ok ⟨o.content.size, some o.etag⟩)
        (.mark (ETag.unquote o.etag)) h
  | missing {h : Holding} {e : StorageError} : forced ∨ h.object = none →
      Turn policy r forced .probe h (.storage (.head r.path)) (.error e) (.entry policy r) h
  | registered {h : Holding} : h.record = none →
      Turn policy r forced .register h (.registry (.register r.authorization r.metadata)) (.ok ())
        (.keyed policy r) { h with record := some ⟨r.metadata, .created, none⟩ }
  | drawn {h : Holding} {root : String} {key : EncryptionKey} :
      Turn policy r forced (.draw root) h .freshKey (.ok key) (.deposit root key) h
  | deposited {h : Holding} {root : String} {key : EncryptionKey} :
      Turn policy r forced (.deposit root key) h
        (.secret (.write (Keys.secretPath root r.path) Keys.entryName key.toHex)) (.ok ())
        (.put (some key)) { h with key := some key.toHex }
  | fetched {h : Holding} {root text : String} {key : EncryptionKey} :
      h.key = some text → EncryptionKey.ofHex text = .ok key →
      Turn policy r forced (.fetch root) h (.secret (.read (Keys.secretPath root r.path) Keys.entryName))
        (.ok text) (.put (some key)) h
  | garbled {h : Holding} {root text : String} {e : UploadError} :
      h.key = some text → EncryptionKey.ofHex text = .error e →
      Turn policy r forced (.fetch root) h (.secret (.read (Keys.secretPath root r.path) Keys.entryName))
        (.ok text) (.finished (.error e)) h
  | stored {h : Holding} {key : Option EncryptionKey} {body : Bytes} {etag : String} :
      r.chunk.body r.payload key = .ok body →
      (h.parts.insert r.chunk.current body).count < r.chunk.total →
      Turn policy r forced (.put key) h (.storage (.put r.path r.chunk r.payload key)) (.ok ⟨false, etag⟩)
        (.returned .continuing) { h with parts := h.parts.insert r.chunk.current body }
  | assembled {h : Holding} {key : Option EncryptionKey} {body : Bytes} {parts : Parts} {o : StoredObject} :
      r.chunk.body r.payload key = .ok body → parts = h.parts.insert r.chunk.current body →
      r.chunk.total ≤ parts.count → o = ⟨parts.assembled, ObjectStore.objectTag parts.assembled parts.count⟩ →
      Turn policy r forced (.put key) h (.storage (.put r.path r.chunk r.payload key)) (.ok ⟨true, o.etag⟩)
        (.assembled policy ⟨true, o.etag⟩) { h with parts := ∅, object := some o }
  | inspected {h : Holding} {o : StoredObject} : h.object = some o →
      Turn policy r forced .inspect h (.storage (.head r.path)) (.ok ⟨o.content.size, some o.etag⟩)
        (.mark (ETag.unquote o.etag)) h
  | unseen {h : Holding} {e : StorageError} : forced ∨ h.object = none →
      Turn policy r forced .inspect h (.storage (.head r.path)) (.error e)
        (.returned (.unrecorded (.ofStorage e))) h
  | untagged {s : Stage} {h : Holding} {o : StoredObject} : forced → s.question r = some (.storage (.head r.path)) →
      h.object = some o →
      Turn policy r forced s h (.storage (.head r.path)) (.ok ⟨o.content.size, none⟩)
        (.returned (.unrecorded (.storage s!"no ETag for {r.path}"))) h
  | marked {h : Holding} {m : FileMetadata} {old : Option String} {etag : String} :
      h.record = some ⟨m, .created, old⟩ →
      Turn policy r forced (.mark etag) h (.registry (.mark r.authorization r.path etag)) (.ok ())
        (.returned .completed) { h with record := some ⟨m, .uploaded, some etag⟩ }
  | unmarked {h : Holding} {etag : String} {e : UploadError} :
      forced ∨ (∀ f, h.record = some f → f.state = .uploaded) →
      Turn policy r forced (.mark etag) h (.registry (.mark r.authorization r.path etag)) (.error e)
        (.returned (.unrecorded e)) h
  | refused {s : Stage} {h : Holding} {q : Call} {a : q.Answer} {e : UploadError} : s.question r = some q →
      q.IsFailure a → s.after policy r q a = .finished (.error e) →
      Turn policy r forced s h q a (.finished (.error e)) h

variable {policy : UploadPolicy} {r : Request}

lemma turn_of_failure {s : Stage} {q : Call} {a : q.Answer} (h : Holding) (hq : s.question r = some q)
    (ha : q.IsFailure a) : Turn policy r True s h q a (s.after policy r q a) h := by
  cases s <;> cases hq <;> obtain ⟨e, rfl⟩ := ha
  case probe => exact .missing (.inl trivial)
  case inspect => exact .unseen (.inl trivial)
  case mark etag => exact .unmarked (.inl trivial)
  all_goals exact .refused rfl ⟨e, rfl⟩ rfl

lemma turn_of_put (b : Backends) (key : Option EncryptionKey) :
    let q := Call.storage (.put r.path r.chunk r.payload key)
    ∃ h, Turn policy r False (.put key) (b.holding policy.keyRoot r.path) q (Backends.respond q b).1
        (Stage.after policy r (.put key) q (Backends.respond q b).1) h ∧
      (Backends.respond q b).2.holding policy.keyRoot =
        Function.update (b.holding policy.keyRoot) r.path h := by
  dsimp only [Backends.respond, ObjectStore.respond, ObjectStore.put]
  cases r.chunk.checkSize r.payload.size with
  | error e => exact ⟨_, .refused rfl ⟨e, rfl⟩ rfl, (Function.update_eq_self _ _).symm⟩
  | ok u =>
    cases hb : r.chunk.body r.payload key with
    | error e => exact ⟨_, .refused rfl ⟨e, rfl⟩ rfl, (Function.update_eq_self _ _).symm⟩
    | ok body =>
      dsimp only [ObjectStore.place]
      split
      · next hc => exact ⟨_, .stored hb hc, b.holding_insert_parts r.path _⟩
      · next hc => exact ⟨_, .assembled hb rfl (Nat.le_of_not_lt hc) rfl, b.holding_insert_object r.path _⟩

theorem turn_of_respond {s : Stage} {q : Call} (b : Backends) (hs : s.Fits policy r) (hq : s.question r = some q) :
    ∃ h, Turn policy r False s (b.holding policy.keyRoot r.path) q (Backends.respond q b).1
        (s.after policy r q (Backends.respond q b).1) h ∧
      (Backends.respond q b).2.holding policy.keyRoot =
        Function.update (b.holding policy.keyRoot) r.path h := by
  have hself := Function.update_eq_self r.path (b.holding policy.keyRoot)
  cases s <;> cases hq
  case probe =>
    dsimp only [Backends.respond, ObjectStore.respond, ObjectStore.head]
    cases ho : b.objects.objects.get? r.path with
    | none => exact ⟨_, .missing (.inr ho), hself.symm⟩
    | some o => exact ⟨_, .found ho, hself.symm⟩
  case inspect =>
    dsimp only [Backends.respond, ObjectStore.respond, ObjectStore.head]
    cases ho : b.objects.objects.get? r.path with
    | none => exact ⟨_, .unseen (.inr ho), hself.symm⟩
    | some o => exact ⟨_, .inspected ho, hself.symm⟩
  case register =>
    dsimp only [Backends.respond, FileRegistry.respond, FileRegistry.register]
    cases hr : b.registry.records.get? r.metadata.path with
    | some f => exact ⟨_, .refused rfl ⟨_, rfl⟩ rfl, hself.symm⟩
    | none => exact ⟨_, .registered hr, b.holding_insert_record r.path _ _ rfl⟩
  case draw root =>
    dsimp only [Backends.respond]
    cases b.keys with
    | nil => exact ⟨_, .drawn, hself.symm⟩
    | cons key keys =>
      cases key with
      | error e => exact ⟨_, .refused rfl ⟨e, rfl⟩ rfl, hself.symm⟩
      | ok key => exact ⟨_, .drawn, hself.symm⟩
  case deposit root key =>
    rw [hs.2.2]
    exact ⟨_, .deposited, b.holding_write_key r.path root key.toHex⟩
  case fetch root =>
    dsimp only [Backends.respond, SecretStore.respond, SecretStore.read]
    cases ht : b.secrets.get? (Keys.secretPath root r.path) Keys.entryName with
    | none => exact ⟨_, .refused rfl ⟨_, rfl⟩ rfl, hself.symm⟩
    | some text =>
      have hkey : (b.holding policy.keyRoot r.path).key = some text := by
        simp only [Backends.holding, hs.2.2, Option.bind_some, ht]
      simp only [Stage.after]
      cases hk : EncryptionKey.ofHex text with
      | error e => exact ⟨_, .garbled hkey hk, hself.symm⟩
      | ok key => exact ⟨_, .fetched hkey hk, hself.symm⟩
  case put key => exact turn_of_put b key
  case mark etag =>
    dsimp only [Backends.respond, FileRegistry.respond, FileRegistry.mark]
    cases hr : b.registry.records.get? r.path with
    | none =>
      refine ⟨_, .unmarked (.inr fun f hf => ?_), hself.symm⟩
      cases hr.symm.trans hf
    | some f =>
      obtain ⟨m, state, old⟩ := f
      cases state with
      | uploaded =>
        refine ⟨_, .unmarked (.inr fun f hf => ?_), hself.symm⟩
        cases hr.symm.trans hf
        rfl
      | created => exact ⟨_, .marked hr, b.holding_insert_record r.path _ _ rfl⟩

end Upload

end ResumableUpload
