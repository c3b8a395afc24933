import ResumableUpload.Proofs.Upload.Alone
import ResumableUpload.Proofs.Upload.Residue

/-! A chunk that is sent again after its upload failed or was cut off. It is taken if it would have been taken at once
without the fault, unless it is the first chunk and its file was registered on the way. -/

namespace ResumableUpload

namespace Backends

variable {b b' : Backends} {policy : UploadPolicy} {path : String}

lemma provides_congr {key : Option EncryptionKey} (h : b'.keys = b.keys) :
    b'.Provides policy key ↔ b.Provides policy key := by
  have hfresh : (respond .freshKey b').1 = (respond .freshKey b).1 := by
    simp only [respond, h]
    cases b.keys <;> rfl
  cases key with
  | none => exact Iff.rfl
  | some k => rw [Provides, Provides, hfresh]

lemma holding_key_congr (h : b'.secrets = b.secrets) :
    (b'.holding policy.keyRoot path).key = (b.holding policy.keyRoot path).key := by
  rw [holding, holding, h]

lemma Same.holding_record (h : b.Same b') :
    (b'.holding policy.keyRoot path).record = (b.holding policy.keyRoot path).record := by
  rw [holding, holding, h.records]

lemma holding_object_congr (h : b'.objects = b.objects) :
    (b'.holding policy.keyRoot path).object = (b.holding policy.keyRoot path).object := by
  rw [holding, holding, h]

lemma Gives.stored (policy : UploadPolicy) {c : Chunk} {payload : Bytes} {key : Option EncryptionKey} {receipt : PartReceipt}
    (h : b.Gives (.storage (.put path c payload key)) (.ok receipt) b') :
    c.SizeAdmissible payload.size ∧ (∃ body, c.body payload key = .ok body) ∧ b'.secrets = b.secrets ∧
      ((b.holding policy.keyRoot path).object.isSome = true → (b'.holding policy.keyRoot path).object.isSome = true) := by
  cases h with
  | failed hf =>
    obtain ⟨e, ⟨⟩⟩ := hf
  | served h =>
    obtain ⟨hs, body, hb, -⟩ := ObjectStore.exists_body_of_put (Prod.ext (Prod.mk.inj h).1 rfl)
    rw [respond_put hs hb] at h
    obtain rfl := (Prod.mk.inj h).2
    refine ⟨hs, ⟨body, hb⟩, rfl, ?_⟩
    rw [ObjectStore.place]
    split
    · exact id
    · simp [holding, Table.get?_insert]

lemma Gives.read_text {name text : String} (h : b.Gives (.secret (.read path name)) (.ok text) b') :
    b.secrets.get? path name = some text := by
  cases h with
  | failed hf =>
    obtain ⟨e, ⟨⟩⟩ := hf
  | served h =>
    have hread : b.secrets.read path name = .ok text := (Prod.mk.inj h).1
    rw [SecretStore.read] at hread
    split at hread
    · next hv =>
      cases hread
      exact hv
    · cases hread

lemma Gives.marked {authorization : Option String} {etag : String} {a : Except UploadError Unit}
    (h : b.Gives (.registry (.mark authorization path etag)) a b') : b'.objects = b.objects ∧ b'.secrets = b.secrets := by
  cases h with
  | failed _ => exact ⟨rfl, rfl⟩
  | served h =>
    obtain rfl := (Prod.mk.inj h).2
    exact ⟨rfl, rfl⟩

lemma Gives.keys_of_register {authorization : Option String} {m : FileMetadata} {a : Except UploadError Unit}
    (h : b.Gives (.registry (.register authorization m)) a b') : b'.keys = b.keys := by
  cases h with
  | failed _ => rfl
  | served h =>
    obtain rfl := (Prod.mk.inj h).2
    rfl

lemma record_isSome_respond (q : Call) (h : (b.holding policy.keyRoot path).record.isSome = true) :
    ((respond q b).2.holding policy.keyRoot path).record.isSome = true := by
  cases q with
  | registry c =>
    cases c with
    | register authorization m =>
      dsimp only [respond, FileRegistry.respond, FileRegistry.register]
      split
      · exact h
      · simp only [holding, Table.get?_insert]
        split
        · rfl
        · exact h
    | mark authorization p etag =>
      dsimp only [respond, FileRegistry.respond, FileRegistry.mark]
      split
      · exact h
      · exact h
      · simp only [holding, Table.get?_insert]
        split
        · rfl
        · exact h
    | _ => exact h
  | freshKey =>
    rw [respond]
    split <;> exact h
  | _ => exact h

lemma Gives.record_isSome {q : Call} {a : q.Answer} (h : b.Gives q a b')
    (hr : (b.holding policy.keyRoot path).record.isSome = true) :
    (b'.holding policy.keyRoot path).record.isSome = true := by
  cases h with
  | failed _ => exact hr
  | served h =>
    obtain rfl := congrArg Prod.snd h
    exact record_isSome_respond q hr

end Backends

namespace Upload

variable {policy : UploadPolicy} {r : Request} {b b' b₁ b₂ : Backends} {log : List Exchange} {s s' : Stage}

/-- The chunk is large enough, and can be encrypted if there is a key. -/
def Request.Stores (r : Request) (key : Option EncryptionKey) : Prop :=
  r.chunk.SizeAdmissible r.payload.size ∧ ∃ body, r.chunk.body r.payload key = .ok body

/-- The chunk can be stored under its key. The file of a first chunk has to be new, and any other chunk finds the
key that is kept for its file. -/
def Request.Enters (policy : UploadPolicy) (r : Request) (b : Backends) : Prop :=
  if r.chunk.isFirst then
    (b.holding policy.keyRoot r.path).record = none ∧ ∃ key, b.Provides policy key ∧ r.Stores key
  else ∃ key, (b.holding policy.keyRoot r.path).Opens policy key ∧ r.Stores key

/-- A last chunk is also taken where its file has an object. -/
def Request.Welcome (policy : UploadPolicy) (r : Request) (b : Backends) : Prop :=
  r.chunk.InRange ∧ (r.chunk.isFirst = false ∧ r.chunk.isFinal = true ∧
    (b.holding policy.keyRoot r.path).object.isSome = true ∨ r.Enters policy b)

namespace Stage

def Succeeds (policy : UploadPolicy) (r : Request) (b : Backends) : Stage → Prop
  | probe => (b.holding policy.keyRoot r.path).object.isSome = true ∨ r.Enters policy b
  | register => (b.holding policy.keyRoot r.path).record = none ∧ ∃ key, b.Provides policy key ∧ r.Stores key
  | draw _ => ∃ key, (Backends.respond .freshKey b).1 = .ok key ∧ r.Stores (some key)
  | fetch _ => ∃ key, (b.holding policy.keyRoot r.path).HasKey key ∧ r.Stores (some key)
  | deposit _ key => r.Stores (some key)
  | put key => r.Stores key
  | inspect | mark _ => True
  | finished result => ∃ c, result = .ok c

lemma exists_key_iff {holds stores : Option EncryptionKey → Prop} {found : EncryptionKey → Prop}
    (hnone : holds none ↔ policy.keyRoot = none)
    (hsome : ∀ k, holds (some k) ↔ policy.keyRoot.isSome = true ∧ found k) :
    (∃ key, holds key ∧ stores key) ↔
      policy.keyRoot = none ∧ stores none ∨ policy.keyRoot.isSome = true ∧ ∃ k, found k ∧ stores (some k) := by
  simp only [Option.exists, hnone, hsome, and_assoc, exists_and_left]

lemma keyed_succeeds_first (hf : r.chunk.isFirst = true) :
    (keyed policy r).Succeeds policy r b ↔ ∃ key, b.Provides policy key ∧ r.Stores key := by
  rw [exists_key_iff Iff.rfl fun _ => Iff.rfl, keyed]
  cases policy.keyRoot with
  | none => simp [Succeeds]
  | some root => simp [Succeeds, hf]

lemma keyed_succeeds_later (hf : r.chunk.isFirst = false) : (keyed policy r).Succeeds policy r b ↔
    ∃ key, (b.holding policy.keyRoot r.path).Opens policy key ∧ r.Stores key := by
  rw [exists_key_iff Iff.rfl fun _ => Iff.rfl, keyed]
  cases hk : policy.keyRoot with
  | none => simp [Succeeds]
  | some root => simp [Succeeds, hf, hk]

lemma entry_succeeds : (entry policy r).Succeeds policy r b ↔ r.Enters policy b := by
  rw [entry, Request.Enters]
  cases hf : r.chunk.isFirst with
  | true => exact Iff.rfl
  | false => exact keyed_succeeds_later hf

lemma start_succeeds : (start policy r).Succeeds policy r b ↔ r.Welcome policy b := by
  rw [start, Request.Welcome, ← r.chunk.checkPosition_eq_ok_iff]
  cases r.chunk.checkPosition with
  | error e => simp [Succeeds]
  | ok u =>
    dsimp only
    split
    · next hp => simp [Succeeds, hp.1, hp.2]
    · next hp =>
      rw [entry_succeeds]
      have hprobe : ¬ (r.chunk.isFirst = false ∧ r.chunk.isFinal = true ∧
        (b.holding policy.keyRoot r.path).object.isSome = true) := fun h => hp ⟨h.1, h.2.1⟩
      simp only [true_and, or_iff_right hprobe]

lemma completing_succeeds (etag : Except UploadError String) : (completing etag).Succeeds policy r b := by
  cases etag with
  | ok etag => trivial
  | error e => exact ⟨_, rfl⟩

lemma assembled_succeeds (receipt : PartReceipt) : (assembled policy receipt).Succeeds policy r b :=
  assembled_of (P := (Succeeds policy r b ·)) (fun _ => trivial) fun _ => trivial

lemma put_succeeds {key : Option EncryptionKey} :
    let q := Call.storage (.put r.path r.chunk r.payload key)
    (after policy r (put key) q (Backends.respond q b).1).Succeeds policy r (Backends.respond q b).2 ↔
      r.Stores key := by
  dsimp only [Backends.respond, ObjectStore.respond, ObjectStore.put]
  by_cases hs : r.chunk.SizeAdmissible r.payload.size
  · have hsize : r.chunk.checkSize r.payload.size = .ok () := if_pos hs
    rw [hsize]
    cases hb : r.chunk.body r.payload key with
    | error e => simp [after, Succeeds, Request.Stores, hb]
    | ok body =>
      refine iff_of_true ?_ ⟨hs, body, hb⟩
      dsimp only [after]
      split
      · exact assembled_succeeds _
      · exact ⟨_, rfl⟩
  · have hsize : r.chunk.checkSize r.payload.size = .error _ := if_neg hs
    rw [hsize]
    simp [after, Succeeds, Request.Stores, hs]

lemma succeeds_after {q : Call} (hs : s.Fits policy r) (hq : s.question r = some q) :
    (s.after policy r q (Backends.respond q b).1).Succeeds policy r (Backends.respond q b).2 ↔
      s.Succeeds policy r b := by
  cases s <;> cases hq
  case probe =>
    cases ho : (b.holding policy.keyRoot r.path).object with
    | none =>
      rw [Backends.respond_head_of_none ho]
      change (entry policy r).Succeeds policy r b ↔ _
      rw [entry_succeeds]
      simp [Succeeds, ho]
    | some o =>
      rw [Backends.respond_head_of_some ho]
      exact iff_of_true trivial (.inl (by rw [ho]; rfl))
  case register =>
    cases hr : (b.holding policy.keyRoot r.path).record with
    | some f =>
      rw [Backends.respond_register_of_some hr]
      simp [after, Succeeds, hr]
    | none =>
      rw [Backends.respond_register_of_none hr]
      change (keyed policy r).Succeeds policy r _ ↔ _
      rw [keyed_succeeds_first hs.2]
      simp only [Succeeds, hr, true_and]
      exact exists_congr fun key => and_congr_left' (Backends.provides_congr rfl)
  case draw root =>
    cases hfresh : (Backends.respond .freshKey b).1 with
    | error e => simp [after, Succeeds, hfresh]
    | ok key => simp [after, Succeeds, hfresh]
  case deposit root key => exact Iff.rfl
  case fetch root =>
    cases hk : (b.holding policy.keyRoot r.path).key with
    | none =>
      have hread : b.secrets.get? (Keys.secretPath root r.path) Keys.entryName = none := by
        simpa [Backends.holding, hs.2.2] using hk
      simp [Backends.respond, SecretStore.respond, SecretStore.read, hread, after, Succeeds, Holding.HasKey, hk]
    | some text =>
      have hread : (b.holding (some root) r.path).key = some text := by rw [← hs.2.2, hk]
      rw [Backends.respond_read hread]
      dsimp only [after]
      cases hd : EncryptionKey.ofHex text with
      | error e => simp [Succeeds, Holding.HasKey, hk, hd]
      | ok key => simp [Succeeds, Holding.HasKey, hk, hd]
  case put key => exact put_succeeds
  case inspect =>
    refine iff_of_true ?_ trivial
    cases (Backends.respond (.storage (.head r.path)) b).1 with
    | error e => exact ⟨_, rfl⟩
    | ok head => exact completing_succeeds _
  case mark etag =>
    refine iff_of_true ?_ trivial
    cases (Backends.respond (.registry (.mark r.authorization r.path etag)) b).1 with
    | error e => exact ⟨_, rfl⟩
    | ok u => exact ⟨_, rfl⟩

end Stage

lemma Leads.run_ok_iff {d : Procedure (Except UploadError Completion)} (h : Leads policy r .returned s d)
    (hs : s.Fits policy r) : (∃ c, (d.run Backends.respond b).1 = .ok c) ↔ s.Succeeds policy r b := by
  induction h generalizing b with
  | ok c => exact Iff.of_eq (congrArg _ (funext fun c' => rfl))
  | error e => exact Iff.rfl
  | ask hq _ ih => exact (ih _ (Stage.fits_after hs hq _)).trans (Stage.succeeds_after hs hq)

lemma Request.serve_ok_iff : (∃ c, (r.serve policy b).1 = .ok c) ↔ r.Welcome policy b :=
  (procedure_leads.run_ok_iff Stage.fits_start).trans Stage.start_succeeds

namespace Request

structure Trail (policy : UploadPolicy) (r : Request) (b b' : Backends) : Prop where
  secrets : b'.secrets = b.secrets
  object : (b.holding policy.keyRoot r.path).object.isSome = true →
    (b'.holding policy.keyRoot r.path).object.isSome = true
  entered : (b'.holding policy.keyRoot r.path).object.isSome = true →
    (b.holding policy.keyRoot r.path).object.isSome = true ∨ r.Enters policy b

lemma Trail.refl (b : Backends) : r.Trail policy b b := ⟨rfl, id, .inl⟩

lemma Trail.congr (h : r.Trail policy b b₁) (hobjects : b₂.objects = b₁.objects) (hsecrets : b₂.secrets = b₁.secrets) :
    r.Trail policy b b₂ := by
  have ho : (b₂.holding policy.keyRoot r.path).object = _ := Backends.holding_object_congr hobjects
  exact ⟨hsecrets.trans h.secrets, ho ▸ h.object, ho ▸ h.entered⟩

lemma Trail.same (h : r.Trail policy b b₁) (hsame : b₁.Same b₂) : r.Trail policy b b₂ :=
  h.congr hsame.objects hsame.secrets

lemma Trail.enters_iff (h : r.Trail policy b b') (hf : r.chunk.isFirst = false) :
    r.Enters policy b' ↔ r.Enters policy b := by
  have hkey : (b'.holding policy.keyRoot r.path).key = _ := Backends.holding_key_congr h.secrets
  simp only [Enters, hf]
  exact exists_congr fun key => and_congr_left' ⟨fun ho => ho.congr hkey.symm, fun ho => ho.congr hkey⟩

lemma Trail.welcome_iff (h : r.Trail policy b b') (hf : r.chunk.isFirst = false) :
    r.Welcome policy b' ↔ r.Welcome policy b := by
  rw [Welcome, Welcome, h.enters_iff hf]
  refine and_congr_right fun _ => ⟨?_, ?_⟩
  · rintro (⟨_, hl, ho⟩ | he)
    · exact (h.entered ho).imp (fun ho => ⟨hf, hl, ho⟩) id
    · exact .inr he
  · exact .imp_left fun ⟨_, hl, ho⟩ => ⟨hf, hl, h.object ho⟩

def Bears (policy : UploadPolicy) (r : Request) (b : Backends) : Stage → Prop
  | .put key => (b.holding policy.keyRoot r.path).Opens policy key
  | _ => True

lemma bears_entry : r.Bears policy b (.entry policy r) :=
  Stage.entry_of (P := (r.Bears policy b ·)) (fun _ => trivial) (fun hk _ => hk) fun _ _ _ => trivial

lemma bears_start : r.Bears policy b (.start policy r) :=
  Stage.start_of_position (P := (r.Bears policy b ·)) (fun _ _ => trivial) (fun _ _ => trivial)
    fun _ _ => bears_entry

lemma Trail.stored {key : Option EncryptionKey} {receipt : PartReceipt} (hf : r.chunk.isFirst = false)
    (h : r.Trail policy b b₁) (hc : r.Bears policy b (.put key))
    (hg : b₁.Gives (.storage (.put r.path r.chunk r.payload key)) (.ok receipt) b₂) : r.Trail policy b b₂ := by
  obtain ⟨hsize, hbody, hsecrets, hobject⟩ := hg.stored policy
  have henters : r.Enters policy b := by
    rw [Enters, hf]
    exact ⟨key, hc, hsize, hbody⟩
  exact ⟨hsecrets.trans h.secrets, fun ho => hobject (h.object ho), fun _ => .inr henters⟩

lemma Trail.next {q : Call} {a : q.Answer} (hf : r.chunk.isFirst = false) (h : r.Trail policy b b₁)
    (hc : r.Bears policy b s) (hfits : s.Fits policy r) (hn : s.Next policy r q a s') (hg : b₁.Gives q a b₂) :
    r.Trail policy b b₂ ∧ r.Bears policy b s' := by
  cases hn with
  | found head | inspected head =>
    refine ⟨h.same hg.same_of_head, ?_⟩
    cases etagOf r.path head <;> trivial
  | missing _ => exact ⟨h.same hg.same_of_head, bears_entry⟩
  | registered | unregistered _ => cases hf.symm.trans hfits.2
  | drawn _ | undrawn _ | deposited | undeposited _ => cases hf.symm.trans hfits.2.1
  | fetched hd =>
    refine ⟨h.same hg.same_of_read, ?_⟩
    have htext := hg.read_text
    rw [h.secrets] at htext
    refine ⟨by rw [hfits.2.2]; rfl, _, ?_, hd⟩
    rw [Backends.holding, hfits.2.2]
    exact htext
  | garbled _ => exact ⟨h.same hg.same_of_read, trivial⟩
  | stored _ => exact ⟨h.stored hf hc hg, trivial⟩
  | assembled _ =>
    exact ⟨h.stored hf hc hg, Stage.assembled_of (P := (r.Bears policy b ·)) (fun _ => trivial) fun _ => trivial⟩
  | unfetched e | unstored e => exact ⟨h.same (hg.same_of_failure ⟨e, rfl⟩), trivial⟩
  | unseen _ => exact ⟨h.same hg.same_of_head, trivial⟩
  | marked | unmarked _ => exact ⟨h.congr hg.marked.1 hg.marked.2, trivial⟩

inductive Entry (r : Request) (policy : UploadPolicy) (log : List Exchange) (s : Stage) (b b' : Backends) : Prop
  | registered : (∃ x ∈ log, x.registers = true) → r.chunk.InRange →
      (b'.holding policy.keyRoot r.path).record.isSome = true → Entry r policy log s b b'
  | unregistered : (∀ x ∈ log, x.registers = false) → (s = .register ∨ ∃ e, s = .finished (.error e)) → b.Same b' →
      b'.keys = b.keys → Entry r policy log s b b'

lemma entry_start (hf : r.chunk.isFirst = true) : r.Entry policy [] (.start policy r) b b := by
  have hentry : Stage.entry policy r = .register := by rw [Stage.entry, hf, if_pos rfl]
  refine .unregistered (List.forall_mem_nil _) ?_ (.refl b) rfl
  exact Stage.start_of_position (P := fun s => s = .register ∨ ∃ e, s = .finished (.error e))
    (fun e _ => .inr ⟨e, rfl⟩) (fun _ hp => absurd (hp.1.symm.trans hf) Bool.false_ne_true) fun _ _ => .inl hentry

lemma Entry.next {q : Call} {a : q.Answer} (h : r.Entry policy log s b b₁) (hfits : s.Fits policy r)
    (hn : s.Next policy r q a s') (hg : b₁.Gives q a b₂) : r.Entry policy (⟨r, q, a⟩ :: log) s' b b₂ := by
  cases h with
  | registered hreg hin hr =>
    obtain ⟨x, hx, hreg⟩ := hreg
    exact .registered ⟨x, List.mem_cons_of_mem _ hx, hreg⟩ hin (hg.record_isSome hr)
  | unregistered hnone hs hsame hkeys =>
    obtain rfl | ⟨e, rfl⟩ := hs
    · cases hn with
      | registered =>
        obtain ⟨-, -, -, hrecords⟩ := hg.registered
        refine .registered ⟨_, List.mem_cons_self, rfl⟩ hfits.1 ?_
        rw [Backends.holding, hrecords, path, Table.get?_insert, if_pos rfl]
        rfl
      | unregistered e =>
        have hsame₂ := hg.same_of_failure ⟨e, rfl⟩
        exact .unregistered (List.forall_mem_cons.mpr ⟨rfl, hnone⟩) (.inr ⟨e, rfl⟩)
          ⟨hsame₂.objects.trans hsame.objects, hsame₂.records.trans hsame.records, hsame₂.secrets.trans hsame.secrets⟩
          (hg.keys_of_register.trans hkeys)
    · cases hn

lemma welcome_iff_of_first (hf : r.chunk.isFirst = true) : r.Welcome policy b ↔
    r.chunk.InRange ∧ (b.holding policy.keyRoot r.path).record = none ∧ ∃ key, b.Provides policy key ∧ r.Stores key := by
  have hlater : ¬ (r.chunk.isFirst = false ∧ r.chunk.isFinal = true ∧
    (b.holding policy.keyRoot r.path).object.isSome = true) := fun h => nomatch hf.symm.trans h.1
  rw [Welcome, Enters, if_pos hf, or_iff_right hlater]

lemma Entry.welcome_iff (h : r.Entry policy log s b b') (hf : r.chunk.isFirst = true) :
    r.Welcome policy b' ↔ r.Welcome policy b ∧ ¬ ∃ x ∈ log, x.registers = true := by
  rw [welcome_iff_of_first hf, welcome_iff_of_first hf]
  cases h with
  | registered hreg _ hr =>
    refine iff_of_false (fun hw => ?_) fun hw => hw.2 hreg
    rw [hw.2.1] at hr
    cases hr
  | unregistered hnone _ hsame hkeys =>
    have hlog : ¬ ∃ x ∈ log, x.registers = true := fun ⟨x, hx, hreg⟩ => nomatch (hnone x hx).symm.trans hreg
    rw [hsame.holding_record, and_iff_left hlog]
    exact and_congr_right' (and_congr_right' (exists_congr fun key => and_congr_left' (Backends.provides_congr hkeys)))

variable {d : Procedure (Except UploadError Completion)}

lemma Reaches.trail (h : r.Reaches policy Backends.Gives b log d b') (hf : r.chunk.isFirst = false) :
    r.Trail policy b b' := by
  obtain ⟨_, -, -, ht, -⟩ := h.kept (I := fun _ s b' => r.Trail policy b b' ∧ r.Bears policy b s)
    ⟨.refl b, bears_start⟩ fun hi hfits hn hg => hi.1.next hf hi.2 hfits hn hg
  exact ht

lemma Reaches.entry (h : r.Reaches policy Backends.Gives b log d b') (hf : r.chunk.isFirst = true) :
    ∃ s, r.Entry policy log s b b' := by
  obtain ⟨s, -, -, he⟩ := h.kept (I := fun log s b' => r.Entry policy log s b b') (entry_start hf)
    fun hi hfits hn hg => hi.next hfits hn hg
  exact ⟨s, he⟩

/-- Wherever an upload stops, because a call fails or because it is cut off, its repetition is taken exactly if the
upload would have been without that, and has not registered its file. A first chunk whose file is registered is turned
away as a duplicate, and changes nothing. -/
theorem Reaches.resent (h : r.Reaches policy Backends.Gives b log d b') :
    ((∃ c, (r.serve policy b').1 = .ok c) ↔
      (∃ c, (r.serve policy b).1 = .ok c) ∧ ¬ (r.chunk.isFirst = true ∧ ∃ x ∈ log, x.registers = true)) ∧
    (r.chunk.isFirst = true → (∃ x ∈ log, x.registers = true) →
      (r.serve policy b').1 = .error .duplicateFile ∧
        (r.serve policy b').2.holding policy.keyRoot = b'.holding policy.keyRoot) := by
  simp only [serve_ok_iff]
  cases hf : r.chunk.isFirst with
  | false => exact ⟨by simpa using (h.trail hf).welcome_iff hf, nofun⟩
  | true =>
    obtain ⟨s, hentry⟩ := h.entry hf
    refine ⟨by simpa using hentry.welcome_iff hf, fun _ hreg => ?_⟩
    cases hentry with
    | unregistered hnone =>
      obtain ⟨x, hx, hreg⟩ := hreg
      cases (hnone x hx).symm.trans hreg
    | registered _ hin hr =>
      obtain ⟨f, hr⟩ := Option.isSome_iff_exists.mp hr
      obtain ⟨b'', hserve, hholding⟩ := leaves_duplicate policy hin hf hr
      rw [hserve]
      exact ⟨rfl, hholding.trans (Function.update_eq_self _ _)⟩

theorem latter_resent : ∃ log e b', latter.Reaches ⟨none, .part⟩ Backends.Gives (.withKeys []) log (.done (.error e)) b' ∧
    e.recoverable = true ∧ ∃ c, (latter.serve ⟨none, .part⟩ b').1 = .ok c := by
  have hprobe : latter.Reaches ⟨none, .part⟩ Backends.Gives (.withKeys [])
      [⟨latter, .storage (.head "a"), .error (.notFound "a")⟩] _ (.withKeys []) := Reaches.start.answer (.served rfl)
  have hput : latter.Reaches ⟨none, .part⟩ Backends.Gives (.withKeys [])
      (⟨latter, .storage (.put "a" ⟨"", "", 2, 2⟩ ⟨#[7]⟩ none), .error (.backend "lost")⟩ :: _)
      (.done (.error (.ofStorage (.backend "lost")))) (.withKeys []) := hprobe.answer (.failed ⟨_, rfl⟩)
  have hwould : ∃ c, (latter.serve ⟨none, .part⟩ (.withKeys [])).1 = .ok c := ⟨.continuing, rfl⟩
  exact ⟨_, _, _, hput, rfl, hput.resent.1.mpr ⟨hwould, fun h => nomatch h.1⟩⟩

def single : Request := .plain "a" 1 1 ⟨#[7]⟩

/-- The only chunk of a file is registered, and its part is lost on its way. -/
theorem single_turned_away : ¬ ∀ policy r b log e b', Reaches policy r Backends.Gives b log (.done (.error e)) b' →
    e.recoverable = true → (∃ c, (r.serve policy b).1 = .ok c) → ∃ c, (r.serve policy b').1 = .ok c := by
  intro h
  have hregister : single.Reaches ⟨none, .part⟩ Backends.Gives (.withKeys [])
      [⟨single, .registry (.register none single.metadata), .ok ()⟩] _ _ := Reaches.start.answer (.served rfl)
  have hput : single.Reaches ⟨none, .part⟩ Backends.Gives (.withKeys [])
      (⟨single, .storage (.put "a" ⟨"", "", 1, 1⟩ ⟨#[7]⟩ none), .error (.backend "lost")⟩ :: _)
      (.done (.error (.ofStorage (.backend "lost")))) _ := hregister.answer (.failed ⟨_, rfl⟩)
  obtain ⟨c, hc⟩ := h _ _ _ _ _ _ hput rfl ⟨.completed, rfl⟩
  cases hc

end Request

end Upload

end ResumableUpload
