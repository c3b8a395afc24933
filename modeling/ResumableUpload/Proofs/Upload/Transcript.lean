import ResumableUpload.Proofs.Upload.Traffic

/-! One upload and the exchanges that it has, whatever is answered. A fact that holds at its first stage and is
kept by every answer holds of all exchanges together. -/

namespace ResumableUpload.Upload

variable {σ : Type} {policy : UploadPolicy} {r : Request} {answers : σ → (q : Call) → q.Answer → σ → Prop} {s s' : σ}
  {log : List Exchange} {d : Procedure (Except UploadError Completion)}

inductive Stage.Next (policy : UploadPolicy) (r : Request) : Stage → (q : Call) → q.Answer → Stage → Prop
  | found (head : ObjectHead) : Next policy r .probe (.storage (.head r.path)) (.ok head) (.completing (etagOf r.path head))
  | missing (e : StorageError) : Next policy r .probe (.storage (.head r.path)) (.error e) (.entry policy r)
  | registered : Next policy r .register (.registry (.register r.authorization r.metadata)) (.ok ()) (.keyed policy r)
  | unregistered (e : UploadError) :
      Next policy r .register (.registry (.register r.authorization r.metadata)) (.error e) (.finished (.error e))
  | drawn {root : String} (key : EncryptionKey) : Next policy r (.draw root) .freshKey (.ok key) (.deposit root key)
  | undrawn {root : String} (e : String) :
      Next policy r (.draw root) .freshKey (.error e) (.finished (.error (.keyGeneration e)))
  | deposited {root : String} {key : EncryptionKey} :
      Next policy r (.deposit root key) (.secret (.write (Keys.secretPath root r.path) Keys.entryName key.toHex)) (.ok ())
        (.put (some key))
  | undeposited {root : String} {key : EncryptionKey} (e : SecretError) :
      Next policy r (.deposit root key) (.secret (.write (Keys.secretPath root r.path) Keys.entryName key.toHex))
        (.error e) (.finished (.error (.secretWrite e.message)))
  | fetched {root text : String} {key : EncryptionKey} : EncryptionKey.ofHex text = .ok key →
      Next policy r (.fetch root) (.secret (.read (Keys.secretPath root r.path) Keys.entryName)) (.ok text)
        (.put (some key))
  | garbled {root text : String} {e : UploadError} : EncryptionKey.ofHex text = .error e →
      Next policy r (.fetch root) (.secret (.read (Keys.secretPath root r.path) Keys.entryName)) (.ok text)
        (.finished (.error e))
  | unfetched {root : String} (e : SecretError) :
      Next policy r (.fetch root) (.secret (.read (Keys.secretPath root r.path) Keys.entryName)) (.error e)
        (.finished (.error (.secretRead e.message)))
  | stored {key : Option EncryptionKey} {receipt : PartReceipt} : receipt.complete = false →
      Next policy r (.put key) (.storage (.put r.path r.chunk r.payload key)) (.ok receipt) (.returned .continuing)
  | assembled {key : Option EncryptionKey} {receipt : PartReceipt} : receipt.complete = true →
      Next policy r (.put key) (.storage (.put r.path r.chunk r.payload key)) (.ok receipt) (.assembled policy receipt)
  | unstored {key : Option EncryptionKey} (e : StorageError) :
      Next policy r (.put key) (.storage (.put r.path r.chunk r.payload key)) (.error e)
        (.finished (.error (.ofStorage e)))
  | inspected (head : ObjectHead) :
      Next policy r .inspect (.storage (.head r.path)) (.ok head) (.completing (etagOf r.path head))
  | unseen (e : StorageError) :
      Next policy r .inspect (.storage (.head r.path)) (.error e) (.returned (.unrecorded (.ofStorage e)))
  | marked {etag : String} :
      Next policy r (.mark etag) (.registry (.mark r.authorization r.path etag)) (.ok ()) (.returned .completed)
  | unmarked {etag : String} (e : UploadError) :
      Next policy r (.mark etag) (.registry (.mark r.authorization r.path etag)) (.error e) (.returned (.unrecorded e))

lemma Stage.next {s : Stage} {q : Call} (hq : s.question r = some q) (a : q.Answer) :
    s.Next policy r q a (s.after policy r q a) := by
  cases s <;> cases hq
  case fetch root =>
    cases a with
    | error e => exact .unfetched e
    | ok text =>
      simp only [after]
      split
      · next hk => exact .fetched hk
      · next hk => exact .garbled hk
  case put key =>
    cases a with
    | error e => exact .unstored e
    | ok receipt =>
      simp only [after]
      split
      · next hc => exact .assembled hc
      · next hc => exact .stored (eq_false_of_ne_true hc)
  all_goals cases a <;> constructor

/-- After the exchanges of a log, the latest first, `d` is left of an upload. What is behind its calls has a state,
and `answers` says which answers it may give and where they lead. -/
inductive Request.Reaches (policy : UploadPolicy) (r : Request) (answers : σ → (q : Call) → q.Answer → σ → Prop)
    (s : σ) : List Exchange → Procedure (Except UploadError Completion) → σ → Prop
  | start : Reaches policy r answers s [] (r.procedure policy) s
  | answer {log : List Exchange} {q : Call} {next} {s₁ s₂ : σ} {a : q.Answer} :
      Reaches policy r answers s log (.ask q next) s₁ → answers s₁ q a s₂ →
      Reaches policy r answers s (⟨r, q, a⟩ :: log) (next a) s₂

namespace Request.Reaches

theorem kept {I : List Exchange → Stage → σ → Prop} (h : r.Reaches policy answers s log d s')
    (hstart : I [] (.start policy r) s)
    (hanswer : ∀ {log : List Exchange} {stage stage' : Stage} {q : Call} {a : q.Answer} {s₁ s₂ : σ}, I log stage s₁ →
      stage.Fits policy r → stage.Next policy r q a stage' → answers s₁ q a s₂ → I (⟨r, q, a⟩ :: log) stage' s₂) :
    ∃ stage, Leads policy r .returned stage d ∧ stage.Fits policy r ∧ I log stage s' := by
  induction h with
  | start => exact ⟨_, procedure_leads, Stage.fits_start, hstart⟩
  | answer _ ha ih =>
    obtain ⟨stage, hleads, hfits, hi⟩ := ih
    cases hleads with
    | ask hq hnext => exact ⟨_, hnext _, Stage.fits_after hfits hq _, hanswer hi hfits (Stage.next hq _) ha⟩

lemma imp {answers' : σ → (q : Call) → q.Answer → σ → Prop} (h : r.Reaches policy answers s log d s')
    (ha : ∀ {s q a s'}, answers s q a s' → answers' s q a s') : r.Reaches policy answers' s log d s' := by
  induction h with
  | start => exact .start
  | answer _ hans ih => exact ih.answer (ha hans)

theorem exists_of_run (respond : (q : Call) → σ → q.Answer × σ) (policy : UploadPolicy) (r : Request) (s : σ) :
    ∃ log, r.Reaches policy (fun s q a s' => respond q s = (a, s')) s log
      (.done ((r.procedure policy).run respond s).1) ((r.procedure policy).run respond s).2 := by
  have hrest : ∀ {d : Procedure (Except UploadError Completion)} {log : List Exchange} {s₁ : σ},
      r.Reaches policy (fun s q a s' => respond q s = (a, s')) s log d s₁ →
      ∃ log, r.Reaches policy (fun s q a s' => respond q s = (a, s')) s log (.done (d.run respond s₁).1)
        (d.run respond s₁).2 := by
    intro d
    induction d with
    | done result => exact fun h => ⟨_, h⟩
    | ask q next ih => exact fun h => ih _ (h.answer rfl)
  exact hrest .start

end Request.Reaches

lemma Leads.stage_eq {stage : Stage} {result : Except UploadError Completion}
    (h : Leads policy r .returned stage (.done result)) : stage = .finished result := by
  cases h <;> rfl

namespace Request

def latterLog : List Exchange :=
  [⟨latter, .registry (.mark none "a" "e"), .ok ()⟩, ⟨latter, .storage (.head "a"), .ok ⟨1, some "\"e\""⟩⟩,
    ⟨latter, .storage (.put "a" ⟨"", "", 2, 2⟩ ⟨#[7]⟩ (some ⟨[7]⟩)), .ok ⟨true, "\"e\""⟩⟩,
    ⟨latter, .secret (.read "keys/a" "key"), .ok "07"⟩, ⟨latter, .storage (.head "a"), .error (.notFound "a")⟩]

lemma latter_reaches :
    latter.Reaches ⟨some "keys", .head⟩ (fun s _ _ s' => s = s') () latterLog (.done (.ok .completed)) () := by
  have hprobe : latter.Reaches ⟨some "keys", .head⟩ (fun s _ _ s' => s = s') () (latterLog.drop 4) _ () :=
    Reaches.start.answer rfl
  have hread : latter.Reaches _ _ _ (latterLog.drop 3) _ _ := hprobe.answer rfl
  have hput : latter.Reaches _ _ _ (latterLog.drop 2) _ _ := hread.answer rfl
  have hlook : latter.Reaches _ _ _ (latterLog.drop 1) _ _ := hput.answer rfl
  exact hlook.answer rfl

end Request

end ResumableUpload.Upload
