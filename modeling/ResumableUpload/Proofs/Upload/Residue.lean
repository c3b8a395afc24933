import ResumableUpload.Proofs.Upload.Transcript

/-! What a failed upload leaves behind. Its part is stored last, and a part that is refused changes nothing, so that
no more than the registration of the file and its key can be left. -/

namespace ResumableUpload

namespace Backends

variable {b b' : Backends} {q : Call} {a : q.Answer}

inductive Gives (b : Backends) (q : Call) (a : q.Answer) : Backends → Prop
  | served {b' : Backends} : respond q b = (a, b') → Gives b q a b'
  | failed : q.IsFailure a → Gives b q a b

/-- Files, records and keys are the same; what the backends count and the keys to come may differ. -/
structure Same (b b' : Backends) : Prop where
  objects : b'.objects = b.objects
  records : b'.registry.records = b.registry.records
  secrets : b'.secrets = b.secrets

lemma Same.refl (b : Backends) : Same b b := ⟨rfl, rfl, rfl⟩

lemma same_of_failure (h : respond q b = (a, b')) (ha : q.IsFailure a) : Same b b' := by
  cases q with
  | storage c =>
    cases c with
    | put path c payload key =>
      obtain ⟨e, rfl⟩ := ha
      simp only [respond, ObjectStore.respond, ObjectStore.put] at h
      split at h
      · cases h
        exact ⟨rfl, rfl, rfl⟩
      · split at h <;> cases h
        exact ⟨rfl, rfl, rfl⟩
    | _ =>
      cases h
      exact ⟨rfl, rfl, rfl⟩
  | registry c =>
    cases c with
    | register authorization m =>
      obtain ⟨e, rfl⟩ := ha
      simp only [respond, FileRegistry.respond, FileRegistry.register] at h
      split at h <;> cases h
      exact ⟨rfl, rfl, rfl⟩
    | mark authorization path etag =>
      obtain ⟨e, rfl⟩ := ha
      simp only [respond, FileRegistry.respond, FileRegistry.mark] at h
      split at h <;> cases h <;> exact ⟨rfl, rfl, rfl⟩
    | _ =>
      cases h
      exact ⟨rfl, rfl, rfl⟩
  | secret c =>
    cases c with
    | write path name value =>
      obtain ⟨e, rfl⟩ := ha
      cases h
    | _ =>
      cases h
      exact ⟨rfl, rfl, rfl⟩
  | freshKey =>
    rw [respond] at h
    split at h <;> cases h <;> exact ⟨rfl, rfl, rfl⟩

lemma Gives.same_of_failure (h : b.Gives q a b') (ha : q.IsFailure a) : Same b b' := by
  cases h with
  | served h => exact Backends.same_of_failure h ha
  | failed _ => exact .refl b

lemma Gives.same_of_head {path : String} {a : Except StorageError ObjectHead}
    (h : b.Gives (.storage (.head path)) a b') : Same b b' := by
  cases h with
  | served h =>
    cases h
    exact ⟨rfl, rfl, rfl⟩
  | failed _ => exact .refl b

lemma Gives.same_of_freshKey {a : Except String EncryptionKey} (h : b.Gives .freshKey a b') : Same b b' := by
  cases h with
  | served h =>
    rw [respond] at h
    split at h <;> cases h <;> exact ⟨rfl, rfl, rfl⟩
  | failed _ => exact .refl b

lemma Gives.same_of_read {path name : String} {a : Except SecretError String}
    (h : b.Gives (.secret (.read path name)) a b') : Same b b' := by
  cases h with
  | served h =>
    cases h
    exact ⟨rfl, rfl, rfl⟩
  | failed _ => exact .refl b

lemma Gives.registered {authorization : Option String} {m : FileMetadata}
    (h : b.Gives (.registry (.register authorization m)) (.ok ()) b') :
    b.registry.records.get? m.path = none ∧ b'.objects = b.objects ∧ b'.secrets = b.secrets ∧
      b'.registry.records = b.registry.records.insert m.path ⟨m, .created, none⟩ := by
  cases h with
  | served h =>
    simp only [respond, FileRegistry.respond, FileRegistry.register] at h
    split at h <;> cases h
    next hnone => exact ⟨hnone, rfl, rfl, rfl⟩
  | failed hf =>
    obtain ⟨e, ⟨⟩⟩ := hf

lemma Gives.written {path name value : String} (h : b.Gives (.secret (.write path name value)) (.ok ()) b') :
    b'.objects = b.objects ∧ b'.registry = b.registry ∧ b'.secrets = b.secrets.write path name value := by
  cases h with
  | served h =>
    cases h
    exact ⟨rfl, rfl, rfl⟩
  | failed hf =>
    obtain ⟨e, ⟨⟩⟩ := hf

end Backends

namespace Upload

namespace Request

variable (policy : UploadPolicy) (r : Request)

inductive Enrols (log : List Exchange) (old : Table String FileRecord) : Table String FileRecord → Prop
  | entered : r.chunk.isFirst = true → (∃ x ∈ log, x.registers = true) → old.get? r.path = none →
      Enrols log old (old.insert r.path ⟨r.metadata, .created, none⟩)
  | kept : (∀ x ∈ log, x.registers = false) → Enrols log old old

inductive Deposits (log : List Exchange) (old : SecretStore) : SecretStore → Prop
  | made {root : String} {key : EncryptionKey} : policy.keyRoot = some root → r.chunk.isFirst = true →
      (∃ x ∈ log, x.registers = true) → ⟨r, .freshKey, .ok key⟩ ∈ log →
      ⟨r, .secret (.write (Keys.secretPath root r.path) Keys.entryName key.toHex), .ok ()⟩ ∈ log →
      Deposits log old (old.write (Keys.secretPath root r.path) Keys.entryName key.toHex)
  | kept : (∀ x ∈ log, x.storesKey = false) → Deposits log old old

structure Residue (log : List Exchange) (b b' : Backends) : Prop where
  objects : b'.objects = b.objects
  records : r.Enrols log b.registry.records b'.registry.records
  secrets : r.Deposits policy log b.secrets b'.secrets

def Due (log : List Exchange) : Stage → Prop
  | .probe | .register => ∀ x ∈ log, x.registers = false ∧ x.storesKey = false
  | .draw _ => (∃ x ∈ log, x.registers = true) ∧ ∀ x ∈ log, x.storesKey = false
  | .deposit _ key => (∃ x ∈ log, x.registers = true) ∧ (∀ x ∈ log, x.storesKey = false) ∧ ⟨r, .freshKey, .ok key⟩ ∈ log
  | _ => True

end Request

def Stage.Unstored : Stage → Prop
  | inspect | mark _ | finished (.ok _) => False
  | _ => True

variable {policy : UploadPolicy} {r : Request} {b b₁ b₂ : Backends} {log : List Exchange} {s s' : Stage}

namespace Request

variable {x : Exchange} {old records : Table String FileRecord} {was secrets : SecretStore}

lemma Enrols.cons (h : r.Enrols log old records) (hx : x.registers = false) : r.Enrols (x :: log) old records := by
  cases h with
  | entered hf hreg hnone =>
    obtain ⟨y, hy, hreg⟩ := hreg
    exact .entered hf ⟨y, List.mem_cons_of_mem _ hy, hreg⟩ hnone
  | kept hnone => exact .kept (List.forall_mem_cons.mpr ⟨hx, hnone⟩)

lemma Enrols.eq (h : r.Enrols log old records) (hnone : ∀ x ∈ log, x.registers = false) : records = old := by
  cases h with
  | entered _ hreg _ =>
    obtain ⟨y, hy, hreg⟩ := hreg
    cases (hnone y hy).symm.trans hreg
  | kept _ => rfl

lemma Enrols.eq_of_later (h : r.Enrols log old records) (hf : r.chunk.isFirst = false) : records = old := by
  cases h with
  | entered hfirst _ _ => cases hf.symm.trans hfirst
  | kept _ => rfl

lemma Deposits.cons (h : r.Deposits policy log was secrets) (hx : x.storesKey = false) :
    r.Deposits policy (x :: log) was secrets := by
  cases h with
  | made hroot hf hreg hfresh hwrite =>
    obtain ⟨y, hy, hreg⟩ := hreg
    exact .made hroot hf ⟨y, List.mem_cons_of_mem _ hy, hreg⟩ (List.mem_cons_of_mem _ hfresh)
      (List.mem_cons_of_mem _ hwrite)
  | kept hnone => exact .kept (List.forall_mem_cons.mpr ⟨hx, hnone⟩)

lemma Deposits.eq (h : r.Deposits policy log was secrets) (hnone : ∀ x ∈ log, x.storesKey = false) :
    secrets = was := by
  cases h with
  | made _ _ _ _ hwrite => cases hnone _ hwrite
  | kept _ => rfl

lemma Deposits.eq_of_later (h : r.Deposits policy log was secrets) (hf : r.chunk.isFirst = false) :
    secrets = was := by
  cases h with
  | made _ hfirst _ _ _ => cases hf.symm.trans hfirst
  | kept _ => rfl

lemma residue_nil : r.Residue policy [] b b := ⟨rfl, .kept (List.forall_mem_nil _), .kept (List.forall_mem_nil _)⟩

lemma Residue.same (h : r.Residue policy log b b₁) (hb : b₁.Same b₂) (hr : x.registers = false)
    (hk : x.storesKey = false) : r.Residue policy (x :: log) b b₂ := by
  refine ⟨hb.objects.trans h.objects, ?_, ?_⟩
  · rw [hb.records]
    exact h.records.cons hr
  · rw [hb.secrets]
    exact h.secrets.cons hk

lemma due_keyed (hreg : (∃ x ∈ log, x.registers = true)) (hk : ∀ x ∈ log, x.storesKey = false) :
    r.Due log (.keyed policy r) :=
  Stage.keyed_of (P := r.Due log) (fun _ => trivial) (fun _ _ _ => ⟨hreg, hk⟩) fun _ _ _ => trivial

lemma due_entry (h : ∀ x ∈ log, x.registers = false ∧ x.storesKey = false) : r.Due log (.entry policy r) :=
  Stage.entry_of (P := r.Due log) (fun _ => h) (fun _ _ => trivial) fun _ _ _ => trivial

lemma due_start : r.Due [] (.start policy r) :=
  Stage.start_of (P := r.Due []) (fun _ => trivial) (fun _ => List.forall_mem_nil _) (fun _ => List.forall_mem_nil _)
    (fun _ _ => trivial) fun _ _ _ => trivial

end Request

namespace Request

lemma Due.next {q : Call} {a : q.Answer} (h : r.Due log s) (hn : s.Next policy r q a s') :
    r.Due (⟨r, q, a⟩ :: log) s' := by
  cases hn with
  | found head | inspected head => cases hetag : etagOf r.path head <;> exact trivial
  | missing _ => exact due_entry (List.forall_mem_cons.mpr ⟨⟨rfl, rfl⟩, h⟩)
  | registered =>
    exact due_keyed ⟨_, List.mem_cons_self, rfl⟩ (List.forall_mem_cons.mpr ⟨rfl, fun x hx => (h x hx).2⟩)
  | drawn key =>
    obtain ⟨⟨x, hx, hreg⟩, hk⟩ := h
    exact ⟨⟨x, List.mem_cons_of_mem _ hx, hreg⟩, List.forall_mem_cons.mpr ⟨rfl, hk⟩, List.mem_cons_self⟩
  | assembled _ => exact Stage.assembled_of (P := r.Due _) (fun _ => trivial) fun _ => trivial
  | _ => exact trivial

lemma not_unstored_completing (etag : Except UploadError String) : ¬ (Stage.completing etag).Unstored := by
  cases etag <;> exact id

lemma Residue.next {q : Call} {a : q.Answer} (h : s.Unstored → r.Residue policy log b b₁) (hdue : r.Due log s)
    (hfits : s.Fits policy r) (hn : s.Next policy r q a s') (hg : b₁.Gives q a b₂) (hs : s'.Unstored) :
    r.Residue policy (⟨r, q, a⟩ :: log) b b₂ := by
  cases hn with
  | found _ | inspected _ => exact (not_unstored_completing _ hs).elim
  | missing _ => exact (h trivial).same hg.same_of_head rfl rfl
  | registered =>
    have h := h trivial
    obtain ⟨hnone, hobj, hsec, hrec⟩ := hg.registered
    rw [h.records.eq fun x hx => (hdue x hx).1] at hnone hrec
    refine ⟨hobj.trans h.objects, ?_, ?_⟩
    · rw [hrec]
      exact .entered hfits.2 ⟨_, List.mem_cons_self, rfl⟩ hnone
    · rw [hsec]
      exact h.secrets.cons rfl
  | drawn _ => exact (h trivial).same hg.same_of_freshKey rfl rfl
  | deposited =>
    have h := h trivial
    obtain ⟨⟨x, hx, hreg⟩, hnone, hfresh⟩ := hdue
    obtain ⟨hobj, hregistry, hsec⟩ := hg.written
    refine ⟨hobj.trans h.objects, ?_, ?_⟩
    · rw [hregistry]
      exact h.records.cons rfl
    · rw [hsec, h.secrets.eq hnone]
      exact .made hfits.2.2 hfits.2.1 ⟨x, List.mem_cons_of_mem _ hx, hreg⟩ (List.mem_cons_of_mem _ hfresh)
        List.mem_cons_self
  | fetched _ | garbled _ => exact (h trivial).same hg.same_of_read rfl rfl
  | assembled _ => exact (Stage.assembled_of (P := fun s => ¬ s.Unstored) (fun _ => id) (fun _ => id) hs).elim
  | unregistered e | undrawn e | undeposited e | unfetched e | unstored e =>
    exact (h trivial).same (hg.same_of_failure ⟨e, rfl⟩) rfl rfl
  | _ => exact hs.elim

/-- An upload that fails leaves the objects and the waiting parts of all files as they were; of the records and the
secrets, it leaves those of other files as they were, and all of them unless its chunk is the first. -/
theorem Reaches.residue {b' : Backends} {e : UploadError}
    (h : r.Reaches policy Backends.Gives b log (.done (.error e)) b') :
    r.Residue policy log b b' ∧
      (r.chunk.isFirst = false → b'.registry.records = b.registry.records ∧ b'.secrets = b.secrets) := by
  obtain ⟨stage, hleads, -, hres, -⟩ := h.kept
    (I := fun log stage b' => (stage.Unstored → r.Residue policy log b b') ∧ r.Due log stage)
    ⟨fun _ => residue_nil, due_start⟩
    fun ⟨hres, hdue⟩ hfits hn hg => ⟨Residue.next hres hdue hfits hn hg, hdue.next hn⟩
  obtain rfl := hleads.stage_eq
  have hres := hres trivial
  exact ⟨hres, fun hf => ⟨hres.records.eq_of_later hf, hres.secrets.eq_of_later hf⟩⟩

theorem small_residue : ∃ log e b', (plain "a" 1 2 ⟨#[7]⟩).Reaches ⟨some "keys", .head⟩ Backends.Gives (.withKeys [])
    log (.done (.error e)) b' ∧ (plain "a" 1 2 ⟨#[7]⟩).Residue ⟨some "keys", .head⟩ log (.withKeys []) b' := by
  obtain ⟨log, hlog⟩ := Reaches.exists_of_run Backends.respond ⟨some "keys", .head⟩ (plain "a" 1 2 ⟨#[7]⟩) (.withKeys [])
  have hrun : (((plain "a" 1 2 ⟨#[7]⟩).procedure ⟨some "keys", .head⟩).run Backends.respond (.withKeys [])).1 =
      .error (.ofStorage (.chunkTooSmall 1 minChunkSize)) := by
    rfl
  rw [hrun] at hlog
  have hgives : (plain "a" 1 2 ⟨#[7]⟩).Reaches _ Backends.Gives _ _ _ _ := hlog.imp .served
  exact ⟨_, _, _, hgives, hgives.residue.1⟩

end Request

end Upload

end ResumableUpload
