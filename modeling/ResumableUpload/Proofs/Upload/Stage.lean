import ResumableUpload.Upload.Chunk
import Mathlib.Tactic

/-! The stages that the upload of a chunk goes through, whatever its backends answer. -/

namespace ResumableUpload.Upload

structure Request where
  authorization : Option String
  metadata : FileMetadata
  chunk : Chunk
  payload : Bytes

def Request.path (r : Request) : String := r.metadata.path

def Request.procedure (policy : UploadPolicy) (r : Request) : Procedure (Except UploadError Completion) :=
  (Upload.chunk policy r.authorization r.metadata r.chunk r.payload).run

/-- Where an upload stands, with what it carries to its next call. -/
inductive Stage
  | probe
  | register
  | draw (root : String)
  | deposit (root : String) (key : EncryptionKey)
  | fetch (root : String)
  | put (key : Option EncryptionKey)
  | inspect
  | mark (etag : String)
  | finished (result : Except UploadError Completion)

namespace Stage

variable (policy : UploadPolicy) (r : Request)

def question : Stage → Option Call
  | probe | inspect => some (.storage (.head r.path))
  | register => some (.registry (.register r.authorization r.metadata))
  | draw _ => some .freshKey
  | deposit root key => some (.secret (.write (Keys.secretPath root r.path) Keys.entryName key.toHex))
  | fetch root => some (.secret (.read (Keys.secretPath root r.path) Keys.entryName))
  | put key => some (.storage (.put r.path r.chunk r.payload key))
  | mark etag => some (.registry (.mark r.authorization r.path etag))
  | finished _ => none

def returned (c : Completion) : Stage := finished (.ok c)

def keyed : Stage :=
  match policy.keyRoot with
  | none => put none
  | some root => if r.chunk.isFirst then draw root else fetch root

def entry : Stage := if r.chunk.isFirst then register else keyed policy r

def start : Stage :=
  match r.chunk.checkPosition with
  | .error e => finished (.error e)
  | .ok () => if r.chunk.isFirst = false ∧ r.chunk.isFinal = true then probe else entry policy r

def completing : Except UploadError String → Stage
  | .ok etag => mark etag
  | .error e => returned (.unrecorded e)

def assembled (receipt : PartReceipt) : Stage :=
  match policy.digest with
  | .part => mark (ETag.unquote receipt.etag)
  | .head => inspect

def after : Stage → (q : Call) → q.Answer → Stage
  | probe, .storage (.head _), .ok head => completing (etagOf r.path head)
  | probe, .storage (.head _), .error _ => entry policy r
  | register, .registry (.register ..), .ok () => keyed policy r
  | register, .registry (.register ..), .error e => finished (.error e)
  | draw root, .freshKey, .ok key => deposit root key
  | draw _, .freshKey, .error e => finished (.error (.keyGeneration e))
  | deposit _ key, .secret (.write ..), .ok () => put (some key)
  | deposit .., .secret (.write ..), .error e => finished (.error (.secretWrite e.message))
  | fetch _, .secret (.read ..), .ok text =>
    match EncryptionKey.ofHex text with
    | .ok key => put (some key)
    | .error e => finished (.error e)
  | fetch _, .secret (.read ..), .error e => finished (.error (.secretRead e.message))
  | put _, .storage (.put ..), .ok receipt =>
    if receipt.complete then assembled policy receipt else returned .continuing
  | put _, .storage (.put ..), .error e => finished (.error (.ofStorage e))
  | inspect, .storage (.head _), .ok head => completing (etagOf r.path head)
  | inspect, .storage (.head _), .error e => returned (.unrecorded (.ofStorage e))
  | mark _, .registry (.mark ..), .ok () => returned .completed
  | mark _, .registry (.mark ..), .error e => returned (.unrecorded e)
  | stage, _, _ => stage

def Fits : Stage → Prop
  | probe => r.chunk.InRange ∧ r.chunk.isFirst = false ∧ r.chunk.isFinal = true
  | register => r.chunk.InRange ∧ r.chunk.isFirst = true
  | draw root | deposit root _ => r.chunk.InRange ∧ r.chunk.isFirst = true ∧ policy.keyRoot = some root
  | fetch root => r.chunk.InRange ∧ r.chunk.isFirst = false ∧ policy.keyRoot = some root
  | put key => r.chunk.InRange ∧ key.isSome = policy.keyRoot.isSome
  | inspect | mark _ => r.chunk.InRange
  | finished _ => True

variable {policy : UploadPolicy} {r : Request}

lemma keyed_of {P : Stage → Prop} (hput : policy.keyRoot = none → P (put none))
    (hdraw : ∀ root, policy.keyRoot = some root → r.chunk.isFirst = true → P (draw root))
    (hfetch : ∀ root, policy.keyRoot = some root → r.chunk.isFirst = false → P (fetch root)) : P (keyed policy r) := by
  rw [keyed]
  cases hk : policy.keyRoot with
  | none => exact hput hk
  | some root =>
    cases hf : r.chunk.isFirst with
    | false => exact hfetch root hk hf
    | true => exact hdraw root hk hf

lemma entry_of {P : Stage → Prop} (hregister : r.chunk.isFirst = true → P register)
    (hput : policy.keyRoot = none → r.chunk.isFirst = false → P (put none))
    (hfetch : ∀ root, policy.keyRoot = some root → r.chunk.isFirst = false → P (fetch root)) : P (entry policy r) := by
  rw [entry]
  cases hf : r.chunk.isFirst with
  | true => exact hregister hf
  | false => exact keyed_of (fun hk => hput hk hf) (fun _ _ ht => absurd (ht.symm.trans hf) nofun) hfetch

lemma start_of_position {P : Stage → Prop}
    (herror : ∀ e, r.chunk.checkPosition = .error e → P (finished (.error e)))
    (hprobe : r.chunk.InRange → r.chunk.isFirst = false ∧ r.chunk.isFinal = true → P probe)
    (hentry : r.chunk.InRange → ¬ (r.chunk.isFirst = false ∧ r.chunk.isFinal = true) → P (entry policy r)) :
    P (start policy r) := by
  rw [start]
  cases hc : r.chunk.checkPosition with
  | error e => exact herror e hc
  | ok u =>
    have hin : r.chunk.InRange := r.chunk.checkPosition_eq_ok_iff.mp hc
    dsimp only
    split
    · next h => exact hprobe hin h
    · next h => exact hentry hin h

lemma start_of {P : Stage → Prop} (herror : ∀ e, P (finished (.error e))) (hprobe : r.chunk.isFirst = false → P probe)
    (hregister : r.chunk.isFirst = true → P register)
    (hput : policy.keyRoot = none → r.chunk.isFirst = false → P (put none))
    (hfetch : ∀ root, policy.keyRoot = some root → r.chunk.isFirst = false → P (fetch root)) : P (start policy r) :=
  start_of_position (fun e _ => herror e) (fun _ h => hprobe h.1) fun _ _ => entry_of hregister hput hfetch

lemma assembled_of {P : Stage → Prop} {receipt : PartReceipt}
    (hpart : policy.digest = .part → P (mark (ETag.unquote receipt.etag))) (hhead : policy.digest = .head → P inspect) :
    P (assembled policy receipt) := by
  rw [assembled]
  cases hd : policy.digest with
  | part => exact hpart hd
  | head => exact hhead hd

lemma eq_of_assembled_eq_mark {receipt : PartReceipt} {etag : String} (h : assembled policy receipt = mark etag) :
    etag = ETag.unquote receipt.etag := by
  revert h
  refine assembled_of (P := (· = mark etag → etag = ETag.unquote receipt.etag)) (fun _ hm => ?_) fun _ hm => ?_
  · exact (Stage.mark.inj hm).symm
  · cases hm

def Opening (policy : UploadPolicy) : Stage → Prop
  | probe | register | draw _ | fetch _ | finished (.error _) => True
  | put none => policy.keyRoot = none
  | _ => False

lemma opening_keyed : (keyed policy r).Opening policy :=
  keyed_of (P := (Opening policy ·)) (fun hk => hk) (fun _ _ _ => trivial) fun _ _ _ => trivial

lemma opening_entry : (entry policy r).Opening policy :=
  entry_of (P := (Opening policy ·)) (fun _ => trivial) (fun hk _ => hk) fun _ _ _ => trivial

lemma opening_start : (start policy r).Opening policy :=
  start_of (P := (Opening policy ·)) (fun _ => trivial) (fun _ => trivial) (fun _ => trivial) (fun hk _ => hk)
    fun _ _ _ => trivial

lemma fits_keyed (h : r.chunk.InRange) : (keyed policy r).Fits policy r :=
  keyed_of (P := fun s => s.Fits policy r) (fun hk => ⟨h, by rw [hk]; rfl⟩) (fun _ hk hf => ⟨h, hf, hk⟩)
    fun _ hk hf => ⟨h, hf, hk⟩

lemma fits_entry (h : r.chunk.InRange) : (entry policy r).Fits policy r :=
  entry_of (P := fun s => s.Fits policy r) (fun hf => ⟨h, hf⟩) (fun hk _ => ⟨h, by rw [hk]; rfl⟩)
    fun _ hk hf => ⟨h, hf, hk⟩

lemma fits_start : (start policy r).Fits policy r :=
  start_of_position (P := fun s => s.Fits policy r) (fun _ _ => trivial) (fun hin h => ⟨hin, h⟩)
    fun hin _ => fits_entry hin

lemma fits_completing (etag : Except UploadError String) (h : r.chunk.InRange) :
    (completing etag).Fits policy r := by
  cases etag with
  | error e => exact trivial
  | ok etag => exact h

lemma fits_assembled (receipt : PartReceipt) (h : r.chunk.InRange) :
    (assembled policy receipt).Fits policy r :=
  assembled_of (P := fun s => s.Fits policy r) (fun _ => h) fun _ => h

lemma fits_after {s : Stage} {q : Call} (hs : s.Fits policy r) (hq : s.question r = some q) (a : q.Answer) :
    (s.after policy r q a).Fits policy r := by
  cases s <;> cases hq
  case probe =>
    cases a with
    | error e => exact fits_entry hs.1
    | ok head => exact fits_completing _ hs.1
  case register =>
    cases a with
    | error e => exact trivial
    | ok u => exact fits_keyed hs.1
  case draw root =>
    cases a with
    | error e => exact trivial
    | ok key => exact hs
  case deposit root key =>
    cases a with
    | error e => exact trivial
    | ok u => exact ⟨hs.1, by rw [hs.2.2]; rfl⟩
  case fetch root =>
    cases a with
    | error e => exact trivial
    | ok text =>
      simp only [after]
      cases EncryptionKey.ofHex text with
      | error e => exact trivial
      | ok key => exact ⟨hs.1, by rw [hs.2.2]; rfl⟩
  case put key =>
    cases a with
    | error e => exact trivial
    | ok receipt =>
      simp only [after]
      split
      · exact fits_assembled receipt hs.1
      · exact trivial
  case inspect =>
    cases a with
    | error e => exact trivial
    | ok head => exact fits_completing _ hs
  case mark etag =>
    cases a <;> exact trivial

end Stage

inductive Leads (policy : UploadPolicy) (r : Request) {α : Type} (goal : α → Stage) :
    Stage → Procedure (Except UploadError α) → Prop
  | ok (a : α) : Leads policy r goal (goal a) (.done (.ok a))
  | error (e : UploadError) : Leads policy r goal (.finished (.error e)) (.done (.error e))
  | ask {stage : Stage} {q : Call} {next} : stage.question r = some q →
      (∀ a, Leads policy r goal (stage.after policy r q a) (next a)) → Leads policy r goal stage (.ask q next)

variable {policy : UploadPolicy} {r : Request} {α β : Type} {goal : β → Stage} {stage : Stage}

namespace Leads

lemma bind {g : α → Stage} {x : Attempt α} {f : α → Attempt β} (h : Leads policy r g stage x.run)
    (hf : ∀ a, Leads policy r goal (g a) (f a).run) : Leads policy r goal stage (x >>= f).run := by
  change Leads policy r g stage (x : Procedure _) at h
  change Leads policy r goal stage (Dialogue.bind (x : Procedure _) (ExceptT.bindCont f))
  induction h with
  | ok a => exact hf a
  | error e => exact .error e
  | ask hq _ ih => exact .ask hq ih

lemma map {f : α → β} {x : Attempt α} (h : Leads policy r (fun a => goal (f a)) stage x.run) :
    Leads policy r goal stage (f <$> x).run := by
  rw [← bind_pure_comp]
  exact h.bind fun a => .ok _

end Leads

lemma generate_leads (root : String) : Leads policy r (fun key => .put (some key)) (.draw root)
    (Keys.generate root r.path).run := by
  refine .ask rfl fun a => ?_
  cases a with
  | error e => exact .error _
  | ok key =>
    refine .ask rfl fun a => ?_
    cases a with
    | error e => exact .error _
    | ok u => exact .ok key

lemma read_leads (root : String) : Leads policy r (fun key => .put (some key)) (.fetch root)
    (Keys.read root r.path).run := by
  refine .ask rfl fun a => ?_
  cases a with
  | error e => exact .error _
  | ok text =>
    change Leads _ _ _ _ (Dialogue.done _)
    simp only [Stage.after]
    cases EncryptionKey.ofHex text with
    | error e => exact .error e
    | ok key => exact .ok key

lemma keyFor_leads : Leads policy r .put (.entry policy r)
    (keyFor policy r.authorization r.metadata r.chunk).run := by
  have hkeyed : Leads policy r .put (.keyed policy r) (match policy.keyRoot with
      | none => return none
      | some root =>
        if r.chunk.isFirst then some <$> Keys.generate root r.metadata.path
        else some <$> Keys.read root r.metadata.path : Attempt (Option EncryptionKey)).run := by
    rw [Stage.keyed]
    cases policy.keyRoot with
    | none => exact .ok none
    | some root =>
      cases r.chunk.isFirst with
      | false => exact (read_leads root).map
      | true => exact (generate_leads root).map
  rw [keyFor, Stage.entry]
  by_cases hf : r.chunk.isFirst = true
  · simp only [hf, ↓reduceIte] at hkeyed ⊢
    refine Leads.bind (g := fun _ => .keyed policy r) ?_ fun _ => hkeyed
    refine .ask rfl fun a => ?_
    cases a with
    | error e => exact .error e
    | ok u => exact .ok ()
  · simp only [hf] at hkeyed ⊢
    exact hkeyed

lemma complete_leads (etag : Except UploadError String) : Leads policy r .returned (.completing etag)
    (ExceptT.run (ExceptT.lift (complete r.authorization r.path etag))) := by
  cases etag with
  | error e => exact .ok _
  | ok etag =>
    refine .ask rfl fun a => ?_
    cases a with
    | error e => exact .ok _
    | ok u => exact .ok _

lemma completionTag_leads (receipt : PartReceipt) : Leads policy r .completing (.assembled policy receipt)
    (ExceptT.run (ExceptT.lift (completionTag policy.digest r.path receipt))) := by
  rw [Stage.assembled]
  unfold completionTag
  cases policy.digest with
  | part => exact .ok (Except.ok _)
  | head =>
    refine .ask rfl fun a => ?_
    cases a with
    | error e => exact .ok (Except.error _)
    | ok head => exact .ok _

lemma store_leads : Leads policy r .returned (.entry policy r)
    (store policy r.authorization r.metadata r.chunk r.payload).run := by
  refine keyFor_leads.bind fun key => ?_
  refine .ask rfl fun a => ?_
  cases a with
  | error e => exact .error _
  | ok receipt =>
    change Leads _ _ _ (if receipt.complete then _ else _)
      (ExceptT.run (if receipt.complete then _ else _))
    split
    · exact (completionTag_leads receipt).bind fun etag => complete_leads etag
    · exact .ok _

theorem procedure_leads : Leads policy r .returned (.start policy r) (r.procedure policy) := by
  rw [Request.procedure, Upload.chunk, Stage.start]
  cases r.chunk.checkPosition with
  | error e => exact .error e
  | ok u =>
    change Leads _ _ _ (if _ then _ else _) (ExceptT.run (if _ then _ else _))
    split
    · refine .ask rfl fun a => ?_
      cases a with
      | error e => exact store_leads
      | ok head => exact complete_leads _
    · exact store_leads

end ResumableUpload.Upload
