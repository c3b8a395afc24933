import ResumableUpload.Proofs.Key
import ResumableUpload.Proofs.Store.Answers
import ResumableUpload.Proofs.Upload.Course

/-! An upload that no other comes between: with what it ends, and what it leaves at its path. -/

namespace ResumableUpload

def Holding.Opens (h : Holding) (policy : UploadPolicy) : Option EncryptionKey → Prop
  | none => policy.keyRoot = none
  | some k => policy.keyRoot.isSome = true ∧ h.HasKey k

lemma Holding.Opens.congr {h h' : Holding} {policy : UploadPolicy} {key : Option EncryptionKey}
    (ho : h.Opens policy key) (hk : h'.key = h.key) : h'.Opens policy key := by
  cases key with
  | none => exact ho
  | some k =>
    obtain ⟨hsome, text, ht, hd⟩ := ho
    exact ⟨hsome, text, hk.trans ht, hd⟩

lemma Holding.Opens.unique {h : Holding} {policy : UploadPolicy} {key key' : Option EncryptionKey}
    (ho : h.Opens policy key) (ho' : h.Opens policy key') : key = key' := by
  cases key with
  | none =>
    cases key' with
    | none => rfl
    | some k' =>
      have hroot : policy.keyRoot = none := ho
      simp [Opens, hroot] at ho'
  | some k =>
    cases key' with
    | none =>
      have hroot : policy.keyRoot = none := ho'
      simp [Opens, hroot] at ho
    | some k' =>
      obtain ⟨_, text, ht, hd⟩ := ho
      obtain ⟨_, text', ht', hd'⟩ := ho'
      obtain rfl := Option.some.inj (ht.symm.trans ht')
      exact congrArg some (Except.ok.inj (hd.symm.trans hd'))

lemma exists_body_of_size {k : EncryptionKey} (hk : Cipher.Aes.isKeySize k.bytes.length = true) (c : Chunk)
    (payload : Bytes) : ∃ body, c.body payload (some k) = .ok body := ⟨_, if_pos hk⟩

def Backends.Provides (b : Backends) (policy : UploadPolicy) : Option EncryptionKey → Prop
  | none => policy.keyRoot = none
  | some k => policy.keyRoot.isSome = true ∧ (respond .freshKey b).1 = .ok k

lemma Holding.Opens.of_toHex {h : Holding} {b : Backends} {policy : UploadPolicy} {key : Option EncryptionKey}
    (hk : b.Provides policy key) (ht : h.key = key.map EncryptionKey.toHex) : h.Opens policy key := by
  cases key with
  | none => exact hk
  | some k => exact ⟨hk.1, _, ht, k.ofHex_toHex⟩

lemma Backends.exists_provides {keys : List (Except String EncryptionKey)}
    (h : ∀ x ∈ keys, ∃ k, x = .ok k ∧ k.bytes.length = Keys.freshSize) (policy : UploadPolicy) :
    ∃ key, (withKeys keys).Provides policy key ∧
      ∀ (c : Chunk) (payload : Bytes), ∃ body, c.body payload key = .ok body := by
  cases hroot : policy.keyRoot with
  | none => exact ⟨none, hroot, fun _ payload => ⟨payload, rfl⟩⟩
  | some root =>
    have hfresh : ∃ k, (respond .freshKey (withKeys keys)).1 = .ok k ∧ k.bytes.length = Keys.freshSize := by
      cases keys with
      | nil => exact ⟨spareKey, rfl, rfl⟩
      | cons x keys => exact h x List.mem_cons_self
    obtain ⟨k, hk, hsize⟩ := hfresh
    refine ⟨some k, ⟨by rw [hroot]; rfl, hk⟩, exists_body_of_size ?_⟩
    rw [hsize]
    rfl

lemma Backends.holding_withKeys (keys : List (Except String EncryptionKey)) (keyRoot : Option String) (path : String) :
    (withKeys keys).holding keyRoot path = .vacant := by
  cases keyRoot with
  | none => rfl
  | some root => rfl

namespace Upload

abbrev Responder := (q : Call) → Backends → q.Answer × Backends

namespace Leads

variable {policy : UploadPolicy} {r : Request} {d : Procedure (Except UploadError Completion)}

lemma eq_done {result : Except UploadError Completion} (h : Leads policy r .returned (.finished result) d) :
    d = .done result := by
  generalize hs : Stage.finished result = s at h
  cases h with
  | ok c =>
    cases hs
    rfl
  | error e =>
    cases hs
    rfl
  | ask hq _ =>
    subst hs
    cases hq

lemma eq_ask {s : Stage} {q : Call} (h : Leads policy r .returned s d) (hq : s.question r = some q) :
    ∃ next, d = .ask q next ∧ ∀ a, Leads policy r .returned (s.after policy r q a) (next a) := by
  cases h with
  | ok c => cases hq
  | error e => cases hq
  | ask hq' hn =>
    obtain rfl := Option.some.inj (hq'.symm.trans hq)
    exact ⟨_, rfl, hn⟩

end Leads

def Stage.Ends (policy : UploadPolicy) (r : Request) (respond : Responder) (s : Stage) (b : Backends)
    (result : Except UploadError Completion) (h : Holding) : Prop :=
  ∀ d, Leads policy r .returned s d → ∃ b', d.run respond b = (result, b') ∧
    b'.holding policy.keyRoot = Function.update (b.holding policy.keyRoot) r.path h

namespace Stage.Ends

variable {policy : UploadPolicy} {r : Request} {respond : Responder} {s : Stage} {b b₁ : Backends}
  {result : Except UploadError Completion} {h h₁ : Holding} {o : StoredObject} {f : FileRecord}

lemma finished : Ends policy r respond (.finished result) b result (b.holding policy.keyRoot r.path) := by
  intro d hd
  rw [hd.eq_done]
  exact ⟨b, rfl, (Function.update_eq_self _ _).symm⟩

lemma ask {q : Call} {a : q.Answer} (hq : s.question r = some q) (ha : respond q b = (a, b₁))
    (hb : b₁.holding policy.keyRoot = Function.update (b.holding policy.keyRoot) r.path h₁)
    (hn : Ends policy r respond (s.after policy r q a) b₁ result h) : Ends policy r respond s b result h := by
  intro d hd
  obtain ⟨next, rfl, hnext⟩ := hd.eq_ask hq
  obtain ⟨b', hrun, hb'⟩ := hn (next a) (hnext a)
  refine ⟨b', ?_, ?_⟩
  · rw [Dialogue.run, ha]
    exact hrun
  · rw [hb', hb, Function.update_idem]

lemma last {q : Call} {a : q.Answer} (hq : s.question r = some q) (ha : respond q b = (a, b₁))
    (hb : b₁.holding policy.keyRoot = Function.update (b.holding policy.keyRoot) r.path h)
    (hs : s.after policy r q a = .finished result) : Ends policy r respond s b result h := by
  have hh : b₁.holding policy.keyRoot r.path = h := (congrFun hb r.path).trans (Function.update_self _ _ _)
  refine ask hq ha hb ?_
  rw [hs, ← hh]
  exact finished

lemma look {q : Call} {a : q.Answer} (hq : s.question r = some q) (ha : respond q b = (a, b))
    (hn : Ends policy r respond (s.after policy r q a) b result h) : Ends policy r respond s b result h :=
  ask hq ha (Function.update_eq_self _ _).symm hn

section

variable {key : Option EncryptionKey} {body : Bytes} {m : FileMetadata} {old : Option String} {etag : String}

lemma marked (hr : (b.holding policy.keyRoot r.path).record = some ⟨m, .created, old⟩) :
    Ends policy r Backends.respond (.mark etag) b (.ok .completed)
      { b.holding policy.keyRoot r.path with record := some ⟨m, .uploaded, some etag⟩ } :=
  last rfl (Backends.respond_mark_of_created hr) (b.holding_insert_record r.path _ _ rfl) rfl

lemma conflicted (hr : (b.holding policy.keyRoot r.path).record = some f) (hu : f.state = .uploaded) :
    Ends policy r Backends.respond (.mark etag) b (.ok (.unrecorded (.stateConflict r.path)))
      (b.holding policy.keyRoot r.path) :=
  last rfl (Backends.respond_mark_of_uploaded hr hu) (Function.update_eq_self _ _).symm rfl

lemma stored (hs : r.chunk.SizeAdmissible r.payload.size) (hb : r.chunk.body r.payload key = .ok body)
    (hc : ((b.holding policy.keyRoot r.path).parts.insert r.chunk.current body).count < r.chunk.total) :
    Ends policy r Backends.respond (.put key) b (.ok .continuing)
      { b.holding policy.keyRoot r.path with
        parts := (b.holding policy.keyRoot r.path).parts.insert r.chunk.current body } := by
  have hput : Backends.respond (.storage (.put r.path r.chunk r.payload key)) b = _ := Backends.respond_put hs hb
  rw [Backends.place_of_lt hc] at hput
  exact last rfl hput (b.holding_insert_parts r.path _) rfl

lemma gathered (hrespond : ∀ c b, respond (.storage c) b = Backends.respond (.storage c) b)
    (hs : r.chunk.SizeAdmissible r.payload.size) (hb : r.chunk.body r.payload key = .ok body)
    (hc : r.chunk.total ≤ ((b.holding policy.keyRoot r.path).parts.insert r.chunk.current body).count)
    (ho : o = let parts := (b.holding policy.keyRoot r.path).parts.insert r.chunk.current body
      ⟨parts.assembled, ObjectStore.objectTag parts.assembled parts.count⟩)
    (hn : ∀ b₁, b₁.holding policy.keyRoot = Function.update (b.holding policy.keyRoot) r.path
        { b.holding policy.keyRoot r.path with parts := ∅, object := some o } →
      Ends policy r respond (.mark (ETag.unquote o.etag)) b₁ result h) :
    Ends policy r respond (.put key) b result h := by
  have hput : Backends.respond (.storage (.put r.path r.chunk r.payload key)) b = _ := Backends.respond_put hs hb
  rw [Backends.place_of_le hc ho, ← hrespond] at hput
  have hb₁ : Backends.holding policy.keyRoot _ = _ := b.holding_insert_object r.path o
  have hh := (congrFun hb₁ r.path).trans (Function.update_self _ _ _)
  refine ask rfl hput hb₁ ?_
  change Ends policy r respond (.assembled policy _) _ result h
  rw [assembled]
  cases policy.digest with
  | part => exact hn _ hb₁
  | head =>
    have hhead := Backends.respond_head_of_some (congrArg Holding.object hh)
    rw [← hrespond] at hhead
    exact look rfl hhead (hn _ hb₁)

lemma completed (hs : r.chunk.SizeAdmissible r.payload.size) (hb : r.chunk.body r.payload key = .ok body)
    (hc : r.chunk.total ≤ ((b.holding policy.keyRoot r.path).parts.insert r.chunk.current body).count)
    (ho : o = let parts := (b.holding policy.keyRoot r.path).parts.insert r.chunk.current body
      ⟨parts.assembled, ObjectStore.objectTag parts.assembled parts.count⟩)
    (hr : (b.holding policy.keyRoot r.path).record = some ⟨m, .created, old⟩) :
    Ends policy r Backends.respond (.put key) b (.ok .completed)
      { b.holding policy.keyRoot r.path with
        parts := ∅, object := some o, record := some ⟨m, .uploaded, some (ETag.unquote o.etag)⟩ } := by
  refine gathered (fun _ _ => rfl) hs hb hc ho fun b₁ hb₁ => ?_
  have hh := (congrFun hb₁ r.path).trans (Function.update_self _ _ _)
  have hrecord : (b₁.holding policy.keyRoot r.path).record = some ⟨m, .created, old⟩ :=
    (congrArg Holding.record hh).trans hr
  have hmark : Ends policy r Backends.respond (.mark (ETag.unquote o.etag)) b₁ _ _ := marked hrecord
  rwa [hh] at hmark

lemma replaced (hs : r.chunk.SizeAdmissible r.payload.size) (hb : r.chunk.body r.payload key = .ok body)
    (hc : r.chunk.total ≤ ((b.holding policy.keyRoot r.path).parts.insert r.chunk.current body).count)
    (ho : o = let parts := (b.holding policy.keyRoot r.path).parts.insert r.chunk.current body
      ⟨parts.assembled, ObjectStore.objectTag parts.assembled parts.count⟩)
    (hr : (b.holding policy.keyRoot r.path).record = some f) (hu : f.state = .uploaded) :
    Ends policy r Backends.respond (.put key) b (.ok (.unrecorded (.stateConflict r.path)))
      { b.holding policy.keyRoot r.path with parts := ∅, object := some o } := by
  refine gathered (fun _ _ => rfl) hs hb hc ho fun b₁ hb₁ => ?_
  have hh := (congrFun hb₁ r.path).trans (Function.update_self _ _ _)
  have hmark : Ends policy r Backends.respond (.mark (ETag.unquote o.etag)) b₁ _ _ :=
    conflicted ((congrArg Holding.record hh).trans hr) hu
  rwa [hh] at hmark

lemma entry_of_later (hf : r.chunk.isFirst = false) (hk : (b.holding policy.keyRoot r.path).Opens policy key)
    (hn : Ends policy r Backends.respond (.put key) b result h) :
    Ends policy r Backends.respond (.entry policy r) b result h := by
  have hentry : entry policy r = keyed policy r := by simp [entry, hf]
  rw [hentry, keyed]
  cases key with
  | none =>
    rw [show policy.keyRoot = none from hk]
    exact hn
  | some k =>
    obtain ⟨hsome, text, ht, hd⟩ := hk
    obtain ⟨root, hroot⟩ := Option.isSome_iff_exists.mp hsome
    rw [hroot] at ht ⊢
    simp only [hf, Bool.false_eq_true, ↓reduceIte]
    refine look rfl (Backends.respond_read ht) ?_
    simpa only [after, hd] using hn

lemma entry_stored (hh : b.holding policy.keyRoot r.path = h) (hf : r.chunk.isFirst = false) (hk : h.Opens policy key)
    (hs : r.chunk.SizeAdmissible r.payload.size) (hb : r.chunk.body r.payload key = .ok body)
    (hc : (h.parts.insert r.chunk.current body).count < r.chunk.total) :
    Ends policy r Backends.respond (.entry policy r) b (.ok .continuing)
      { h with parts := h.parts.insert r.chunk.current body } := by
  subst hh
  exact entry_of_later hf hk (stored hs hb hc)

lemma drawn {root : String} {k : EncryptionKey} (hroot : policy.keyRoot = some root)
    (hfresh : (Backends.respond .freshKey b).1 = .ok k)
    (hn : ∀ b₁ : Backends, b₁.holding policy.keyRoot = Function.update (b.holding policy.keyRoot) r.path
        { b.holding policy.keyRoot r.path with key := some k.toHex } →
      Ends policy r Backends.respond (.put (some k)) b₁ result h) :
    Ends policy r Backends.respond (.draw root) b result h := by
  obtain ⟨keys, hdraw⟩ := Backends.respond_freshKey hfresh b.registry
  have hwrite := Backends.holding_write_key { b with keys } r.path root k.toHex
  rw [← hroot] at hwrite
  refine ask rfl hdraw (Function.update_eq_self _ _).symm ?_
  exact ask rfl rfl hwrite (hn _ hwrite)

lemma entry_of_first (hf : r.chunk.isFirst = true) (hr : (b.holding policy.keyRoot r.path).record = none)
    (hk : b.Provides policy key)
    (hn : ∀ b₁ : Backends, b₁.holding policy.keyRoot = Function.update (b.holding policy.keyRoot) r.path
        { b.holding policy.keyRoot r.path with
          record := some ⟨r.metadata, .created, none⟩, key := key.map EncryptionKey.toHex } →
      Ends policy r Backends.respond (.put key) b₁ result h) :
    Ends policy r Backends.respond (.entry policy r) b result h := by
  have hentry : entry policy r = register := by simp [entry, hf]
  rw [hentry]
  refine ask rfl (Backends.respond_register_of_none hr) (b.holding_insert_record r.path _ _ rfl) ?_
  simp only [after, keyed, hf, ↓reduceIte]
  generalize hregistry : ({ b.registry with
    registrations := b.registry.registrations + 1
    records := b.registry.records.insert r.metadata.path ⟨r.metadata, .created, none⟩ } : FileRegistry) = registry
  have hrecord : Backends.holding policy.keyRoot _ = _ :=
    b.holding_insert_record r.path registry ⟨r.metadata, .created, none⟩ (by rw [← hregistry]; rfl)
  cases key with
  | none =>
    have hroot : policy.keyRoot = none := hk
    rw [hroot] at hrecord ⊢
    exact hn _ (by rw [hroot]; exact hrecord)
  | some k =>
    obtain ⟨hsome, hfresh⟩ := hk
    obtain ⟨root, hroot⟩ := Option.isSome_iff_exists.mp hsome
    obtain ⟨keys, hdraw⟩ := Backends.respond_freshKey hfresh registry
    rw [hroot]
    refine drawn hroot (congrArg Prod.fst hdraw) fun b₁ hb₁ => hn b₁ ?_
    rw [hb₁, hrecord]
    simp

lemma start_of_entry (hin : r.chunk.InRange)
    (hp : r.chunk.isFirst = true ∨ r.chunk.isFinal = false ∨ (b.holding policy.keyRoot r.path).object = none)
    (hn : Ends policy r Backends.respond (.entry policy r) b result h) :
    Ends policy r Backends.respond (.start policy r) b result h := by
  rw [start, r.chunk.checkPosition_eq_ok_iff.mpr hin]
  dsimp only
  split
  · next hfinal =>
    have ho : (b.holding policy.keyRoot r.path).object = none := by
      simpa [hfinal.1, hfinal.2] using hp
    exact look rfl (Backends.respond_head_of_none ho) hn
  · exact hn

lemma start_of_object (hin : r.chunk.InRange) (hf : r.chunk.isFirst = false) (hl : r.chunk.isFinal = true)
    (ho : (b.holding policy.keyRoot r.path).object = some o)
    (hn : Ends policy r Backends.respond (.mark (ETag.unquote o.etag)) b result h) :
    Ends policy r Backends.respond (.start policy r) b result h := by
  rw [start, r.chunk.checkPosition_eq_ok_iff.mpr hin]
  dsimp only
  rw [if_pos ⟨hf, hl⟩]
  exact look rfl (Backends.respond_head_of_some ho) hn

end

end Stage.Ends

def Request.serve (policy : UploadPolicy) (r : Request) (b : Backends) :
    Except UploadError Completion × Backends := (r.procedure policy).run Backends.respond b

/-- What comes back, and what is left at the path; other paths stay as they are. -/
def Request.Leaves (policy : UploadPolicy) (r : Request) (b : Backends) (result : Except UploadError Completion)
    (h : Holding) : Prop :=
  ∃ b', r.serve policy b = (result, b') ∧
    b'.holding policy.keyRoot = Function.update (b.holding policy.keyRoot) r.path h

namespace Request

variable {policy : UploadPolicy} {r : Request} {b : Backends} {result : Except UploadError Completion} {h : Holding}
  {key : Option EncryptionKey} {body : Bytes} {m : FileMetadata} {old : Option String} {o : StoredObject}
  {f : FileRecord}

lemma leaves_of_ends (hs : (Stage.start policy r).Ends policy r Backends.respond b result h) :
    r.Leaves policy b result h := hs _ procedure_leads

variable (policy)

section

variable (hh : b.holding policy.keyRoot r.path = h) (hin : r.chunk.InRange) (hf : r.chunk.isFirst = false)
include hh hin hf

lemma leaves_stored (hp : r.chunk.isFinal = false ∨ h.object = none) (hk : h.Opens policy key)
    (hs : r.chunk.SizeAdmissible r.payload.size) (hb : r.chunk.body r.payload key = .ok body)
    (hc : (h.parts.insert r.chunk.current body).count < r.chunk.total) :
    r.Leaves policy b (.ok .continuing) { h with parts := h.parts.insert r.chunk.current body } := by
  subst hh
  exact leaves_of_ends (.start_of_entry hin (.inr hp) (.entry_stored rfl hf hk hs hb hc))

lemma leaves_completed (hp : r.chunk.isFinal = false ∨ h.object = none) (hk : h.Opens policy key)
    (hs : r.chunk.SizeAdmissible r.payload.size) (hb : r.chunk.body r.payload key = .ok body)
    (hc : r.chunk.total ≤ (h.parts.insert r.chunk.current body).count)
    (ho : o = let parts := h.parts.insert r.chunk.current body
      ⟨parts.assembled, ObjectStore.objectTag parts.assembled parts.count⟩)
    (hr : h.record = some ⟨m, .created, old⟩) :
    r.Leaves policy b (.ok .completed)
      ⟨some ⟨m, .uploaded, some (ETag.unquote o.etag)⟩, ∅, some o, h.key⟩ := by
  subst hh
  exact leaves_of_ends (.start_of_entry hin (.inr hp) (.entry_of_later hf hk (.completed hs hb hc ho hr)))

lemma leaves_replaced (hp : r.chunk.isFinal = false ∨ h.object = none) (hk : h.Opens policy key)
    (hs : r.chunk.SizeAdmissible r.payload.size) (hb : r.chunk.body r.payload key = .ok body)
    (hc : r.chunk.total ≤ (h.parts.insert r.chunk.current body).count)
    (ho : o = let parts := h.parts.insert r.chunk.current body
      ⟨parts.assembled, ObjectStore.objectTag parts.assembled parts.count⟩)
    (hr : h.record = some f) (hu : f.state = .uploaded) :
    r.Leaves policy b (.ok (.unrecorded (.stateConflict r.path))) { h with parts := ∅, object := some o } := by
  subst hh
  exact leaves_of_ends (.start_of_entry hin (.inr hp) (.entry_of_later hf hk (.replaced hs hb hc ho hr hu)))

lemma leaves_recorded (hl : r.chunk.isFinal = true) (ho : h.object = some o)
    (hr : h.record = some ⟨m, .created, old⟩) : r.Leaves policy b (.ok .completed)
      { h with record := some ⟨m, .uploaded, some (ETag.unquote o.etag)⟩ } := by
  subst hh
  exact leaves_of_ends (.start_of_object hin hf hl ho (.marked hr))

lemma leaves_conflicted (hl : r.chunk.isFinal = true) (ho : h.object = some o) (hr : h.record = some f)
    (hu : f.state = .uploaded) : r.Leaves policy b (.ok (.unrecorded (.stateConflict r.path))) h := by
  subst hh
  exact leaves_of_ends (.start_of_object hin hf hl ho (.conflicted hr hu))

end

section

variable (hin : r.chunk.InRange) (hf : r.chunk.isFirst = true) (hv : b.holding policy.keyRoot r.path = .vacant)
  (hk : b.Provides policy key)
include hin hf hv hk

lemma leaves_of_put (hn : ∀ b₁ : Backends, b₁.holding policy.keyRoot r.path =
      ⟨some ⟨r.metadata, .created, none⟩, ∅, none, key.map EncryptionKey.toHex⟩ →
    Stage.Ends policy r Backends.respond (.put key) b₁ result h) : r.Leaves policy b result h := by
  refine leaves_of_ends (.start_of_entry hin (.inl hf) (.entry_of_first hf (by rw [hv]; rfl) hk fun b₁ hb₁ => hn b₁ ?_))
  rw [hb₁, Function.update_self, hv]
  rfl

lemma leaves_opened (hs : r.chunk.SizeAdmissible r.payload.size) (hb : r.chunk.body r.payload key = .ok body)
    (hc : 1 < r.chunk.total) :
    r.Leaves policy b (.ok .continuing) ⟨some ⟨r.metadata, .created, none⟩, (∅ : Parts).insert r.chunk.current body,
      none, key.map EncryptionKey.toHex⟩ := by
  apply leaves_of_put policy hin hf hv hk
  intro b₁ hh
  have hstored : Stage.Ends policy r Backends.respond (.put key) b₁ _ _ := .stored hs hb (by rw [hh]; exact hc)
  rwa [hh] at hstored

lemma leaves_whole (hs : r.chunk.SizeAdmissible r.payload.size) (hb : r.chunk.body r.payload key = .ok body)
    (hc : r.chunk.total ≤ 1) (ho : o = let parts := (∅ : Parts).insert r.chunk.current body
      ⟨parts.assembled, ObjectStore.objectTag parts.assembled parts.count⟩) :
    r.Leaves policy b (.ok .completed) ⟨some ⟨r.metadata, .uploaded, some (ETag.unquote o.etag)⟩, ∅, some o,
      key.map EncryptionKey.toHex⟩ := by
  apply leaves_of_put policy hin hf hv hk
  intro b₁ hh
  have hcompleted : Stage.Ends policy r Backends.respond (.put key) b₁ (.ok .completed)
      { b₁.holding policy.keyRoot r.path with
        parts := ∅, object := some o, record := some ⟨r.metadata, .uploaded, some (ETag.unquote o.etag)⟩ } := by
    apply Stage.Ends.completed hs hb
    · rw [hh]
      exact hc
    · rw [hh]
      exact ho
    · rw [hh]
  rwa [hh] at hcompleted

end

lemma leaves_duplicate (hin : r.chunk.InRange) (hf : r.chunk.isFirst = true)
    (hr : (b.holding policy.keyRoot r.path).record = some f) :
    r.Leaves policy b (.error .duplicateFile) (b.holding policy.keyRoot r.path) := by
  refine leaves_of_ends (.start_of_entry hin (.inl hf) ?_)
  have hentry : Stage.entry policy r = .register := by simp [Stage.entry, hf]
  rw [hentry]
  exact .last rfl (Backends.respond_register_of_some hr) (Function.update_eq_self _ _).symm rfl

end Request

def Responder.Possible (respond : Responder) : Prop :=
  ∀ q b, respond q b = Backends.respond q b ∨ ∃ a, q.IsFailure a ∧ respond q b = (a, b)

section

variable {policy : UploadPolicy} {t : Traffic} {r : Request} {respond : Responder}

lemma Responder.Possible.step (hr : respond.Possible) {i : Nat} {q : Call} {next}
    (hi : t.flights[i]? = some ⟨r, some (.ask q next)⟩) :
    Step policy t (t.resume i r q (respond q t.backends).1 next (respond q t.backends).2) := by
  rcases hr q t.backends with h | ⟨a, ha, h⟩
  · rw [h]
    exact .inl (.answer hi)
  · rw [h]
    exact .inr (.fail a hi ha)

section

variable {step : Traffic → Traffic → Prop}
  (hstep : ∀ {t : Traffic} {i : Nat} {q : Call} {next}, t.flights[i]? = some ⟨r, some (.ask q next)⟩ →
    step t (t.resume i r q (respond q t.backends).1 next (respond q t.backends).2))
include hstep

lemma reaches_of_run {i : Nat} {d : Procedure (Except UploadError Completion)}
    (hi : t.flights[i]? = some ⟨r, some d⟩) :
    ∃ t', Relation.ReflTransGen step t t' ∧ t'.backends = (d.run respond t.backends).2 ∧
      t'.flights = t.flights.set i ⟨r, some (.done (d.run respond t.backends).1)⟩ := by
  induction d generalizing t with
  | done result =>
    refine ⟨t, .refl, rfl, ?_⟩
    obtain ⟨hlt, hget⟩ := List.getElem?_eq_some_iff.mp hi
    rw [Dialogue.run, ← hget, List.set_getElem_self]
  | ask q next ih =>
    obtain ⟨hlt, _⟩ := List.getElem?_eq_some_iff.mp hi
    obtain ⟨t', hs, hb, hf⟩ := ih (respond q t.backends).1
      (t := t.resume i r q (respond q t.backends).1 next (respond q t.backends).2)
      (List.getElem?_set_self hlt)
    refine ⟨t', .head (hstep hi) hs, hb, ?_⟩
    rw [hf, Traffic.resume, List.set_set]
    rfl

lemma reaches_of_launch {policy : UploadPolicy} (t : Traffic) (hlaunch : step t (t.launch policy r)) :
    ∃ t', Relation.ReflTransGen step t t' ∧
      t'.backends = ((r.procedure policy).run respond t.backends).2 ∧
      t'.flights = t.flights ++ [⟨r, some (.done ((r.procedure policy).run respond t.backends).1)⟩] := by
  have hi : (t.launch policy r).flights[t.flights.length]? = some ⟨r, some (r.procedure policy)⟩ := by
    simp [Traffic.launch]
  obtain ⟨t', hs, hb, hf⟩ := reaches_of_run hstep hi
  refine ⟨t', .head hlaunch hs, hb, ?_⟩
  rw [hf, Traffic.launch]
  simp

end

lemma steps_of_launch (policy : UploadPolicy) (hr : respond.Possible) (t : Traffic) (r : Request) :
    ∃ t', Relation.ReflTransGen (Step policy) t t' ∧
      t'.backends = ((r.procedure policy).run respond t.backends).2 ∧
      t'.flights = t.flights ++ [⟨r, some (.done ((r.procedure policy).run respond t.backends).1)⟩] :=
  reaches_of_launch (fun hi => hr.step hi) t (.inl (.launch r))

lemma Request.Leaves.moves {result : Except UploadError Completion} {h : Holding}
    (hl : r.Leaves policy t.backends result h) : ∃ t', Relation.ReflTransGen (Move policy) t t' ∧
      t'.holding policy = Function.update (t.holding policy) r.path h ∧
      t'.flights = t.flights ++ [⟨r, some (.done result)⟩] := by
  obtain ⟨b', hserve, hb'⟩ := hl
  have hanswer : ∀ {t : Traffic} {i : Nat} {q : Call} {next}, t.flights[i]? = some ⟨r, some (.ask q next)⟩ →
      Move policy t (t.resume i r q (Backends.respond q t.backends).1 next (Backends.respond q t.backends).2) :=
    fun hi => .answer hi
  obtain ⟨t', hs, hb, hf⟩ := reaches_of_launch hanswer t (.launch r)
  have hrun : (r.procedure policy).run Backends.respond t.backends = (result, b') := hserve
  rw [hrun] at hb hf
  refine ⟨t', hs, ?_, hf⟩
  funext path
  rw [Traffic.holding, hb, hb']
  rfl

lemma Request.Leaves.moves_here {result : Except UploadError Completion} {h : Holding}
    (hl : r.Leaves policy t.backends result h) : ∃ t', Relation.ReflTransGen (Move policy) t t' ∧
      t'.holding policy r.path = h ∧ t'.flights = t.flights ++ [⟨r, some (.done result)⟩] := by
  obtain ⟨t', hs, hh, hf⟩ := hl.moves
  exact ⟨t', hs, (congrFun hh r.path).trans (Function.update_self _ _ _), hf⟩

lemma Request.Leaves.steps {result : Except UploadError Completion} {h : Holding}
    (hl : r.Leaves policy t.backends result h) : ∃ t', Relation.ReflTransGen (Step policy) t t' ∧
      t'.holding policy = Function.update (t.holding policy) r.path h ∧
      t'.flights = t.flights ++ [⟨r, some (.done result)⟩] := by
  obtain ⟨t', hs, hh, hf⟩ := hl.moves
  exact ⟨t', Relation.ReflTransGen.mono (fun _ _ hm => Or.inl hm) _ _ hs, hh, hf⟩

end

def Request.least (current total : Nat) : Request := .plain "a" current total ⟨Array.replicate minChunkSize 97⟩

namespace Request

lemma least_sizeAdmissible (current total : Nat) :
    (least current total).chunk.SizeAdmissible (least current total).payload.size :=
  .inr (Nat.le_of_eq Array.size_replicate.symm)

lemma steps_least (policy : UploadPolicy) (key : Option EncryptionKey) (t : Traffic) {total : Nat}
    (hin : (least 1 total).chunk.InRange) (hlong : 1 < total) (hv : t.holding policy "a" = .vacant)
    (hk : t.backends.Provides policy key) {body : Bytes}
    (hb : (least 1 total).chunk.body (least 1 total).payload key = .ok body) :
    ∃ t', Relation.ReflTransGen (Step policy) t t' ∧
      t'.flights = t.flights ++ [⟨least 1 total, some (.done (.ok .continuing))⟩] ∧
      t'.holding policy "a" = ⟨some ⟨(least 1 total).metadata, .created, none⟩, (∅ : Parts).insert 1 body, none,
        key.map EncryptionKey.toHex⟩ := by
  obtain ⟨t', hs, hh, hf⟩ := (leaves_opened policy hin rfl hv hk (least_sizeAdmissible 1 total) hb hlong).steps
  exact ⟨t', hs, hf, (congrFun hh "a").trans (Function.update_self _ _ _)⟩

end Request

end Upload

end ResumableUpload
