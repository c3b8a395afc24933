import ResumableUpload.Proofs.Client.Reach
import ResumableUpload.Proofs.Dialogue
import ResumableUpload.Proofs.Service.Codes
import ResumableUpload.Proofs.Service.Tracing
import ResumableUpload.Proofs.Upload.Verdict
import ResumableUpload.Service.Wiring

/-! A client that is told of a failure in time can tell whether the file is stored. -/

namespace ResumableUpload

open Service (Failure Reply)
open Upload (Exchange)

namespace Upload.Request

variable {σ : Type} {policy : UploadPolicy} {x : Request} {log : List Exchange}

def Ended (policy : UploadPolicy) (x : Request) (log : List Exchange) (result : Except UploadError Completion) : Prop :=
  x.Reaches policy (fun (_ : Unit) _ _ _ => True) () log (.done result) ()

lemma Reaches.forget {answers : σ → (q : Call) → q.Answer → σ → Prop} {s s' : σ}
    {d : Procedure (Except UploadError Completion)} (h : x.Reaches policy answers s log d s') :
    x.Reaches policy (fun (_ : Unit) _ _ _ => True) () log d () := by
  induction h with
  | start => exact .start
  | answer _ _ ih => exact ih.answer trivial

lemma Ended.judged {result : Except UploadError Completion} (h : x.Ended policy log result) : x.Verdict policy log result := by
  obtain ⟨stage, hleads, htold⟩ := Reaches.told h
  obtain rfl := hleads.stage_eq
  exact htold.judged

lemma Verdict.unique {result result' : Except UploadError Completion} (h : x.Verdict policy log result)
    (h' : x.Verdict policy log result') : result = result' := by
  cases result with
  | error e => exact ((h'.refused e).mpr ((h.refused e).mp rfl)).symm
  | ok c =>
    cases c with
    | continuing => exact (h'.continuing.mpr (h.continuing.mp rfl)).symm
    | completed => exact (h'.completed.mpr (h.completed.mp rfl)).symm
    | unrecorded e => exact ((h'.unrecorded e).mpr ((h.unrecorded e).mp rfl)).symm

lemma Verdict.exists_unrecorded_iff {result : Except UploadError Completion} (h : x.Verdict policy log result) :
    (∃ e, result = .ok (.unrecorded e)) ↔ x.Announced log ∧ ∀ y ∈ log, y.marks = false := by
  constructor
  · rintro ⟨e, rfl⟩
    refine ⟨h.announced.mpr ⟨_, rfl, rfl⟩, fun y hy => Bool.eq_false_iff.mpr fun hmarks => ?_⟩
    cases h.completed.mpr ⟨y, hy, hmarks⟩
  · rintro ⟨hannounced, hmarks⟩
    obtain ⟨c, rfl, hc⟩ := h.announced.mp hannounced
    cases c with
    | continuing => cases hc
    | completed =>
      obtain ⟨y, hy, hmark⟩ := h.completed.mp rfl
      rw [hmarks y hy] at hmark
      cases hmark
    | unrecorded e => exact ⟨e, rfl⟩

lemma not_announced_nil : ¬ x.Announced [] := by
  rintro (⟨y, hy, -⟩ | ⟨-, rest, head, hlog⟩)
  · cases hy
  · exact List.append_ne_nil_of_right_ne_nil _ (List.cons_ne_nil _ _) hlog.symm

end Upload.Request

def UploadError.early : UploadError → Bool
  | .invalidPosition _ | .fileNotFound _ | .stateConflict _ | .notRegistered _ | .timeout => false
  | _ => true

lemma Upload.Exchange.failure_cases {y : Exchange} {e : UploadError} (h : y.failure = some e) :
    e.early = true ∨
      ∃ authorization m, y = ⟨y.request, .registry (.register authorization m), .error e⟩ := by
  obtain ⟨x, call, answer⟩ := y
  cases call with
  | registry c =>
    cases c with
    | register authorization m =>
      cases answer with
      | error e =>
        cases h
        exact .inr ⟨authorization, m, rfl⟩
      | ok u => cases h
    | _ => cases answer <;> cases h
  | storage c =>
    left
    cases c with
    | put path chunk payload key =>
      cases answer with
      | error e => cases e <;> cases h <;> rfl
      | ok receipt => cases h
    | _ => cases answer <;> cases h
  | secret c =>
    left
    cases c with
    | read path name =>
      cases answer with
      | error e =>
        cases h
        rfl
      | ok text =>
        simp only [failure, EncryptionKey.ofHex] at h
        split at h
        · next he =>
          split at he <;> cases he
          cases h
          rfl
        · cases h
    | write path name value =>
      cases answer <;> cases h
      rfl
    | check => cases answer <;> cases h
  | freshKey =>
    cases answer <;> cases h
    exact .inl rfl

namespace RemoteRegistry

variable {e : UploadError}

lemma early_badRequest (response : Http.Response) : (badRequest response).early = true := by
  rw [badRequest]
  split
  · rw [ofErrors]
    split <;> rfl
  · rfl

lemma early_ofRegistration {response : Except Http.TransportError Http.Response} (h : ofRegistration response = .error e) :
    e.early = true := by
  cases response with
  | error e =>
    cases h
    rfl
  | ok response =>
    rw [ofRegistration] at h
    split at h
    · cases h
    split at h
    · cases h
      exact early_badRequest response
    split at h
    · cases h
      rfl
    split at h <;> cases h <;> rfl

end RemoteRegistry

lemma Chunk.exists_of_checkPosition {c : Chunk} {e : UploadError} (h : c.checkPosition = .error e) :
    ∃ detail, e = .invalidPosition detail := by
  rw [checkPosition] at h
  split at h
  · exact ⟨_, (Except.error.inj h).symm⟩
  split at h
  · exact ⟨_, (Except.error.inj h).symm⟩
  split at h
  · exact ⟨_, (Except.error.inj h).symm⟩
  · cases h

def FileBackend.Gives : FileBackend → (c : RegistryCall) → c.Answer → Prop
  | .memory, c, a => ∃ registry, (FileRegistry.respond c registry).1 = a
  | .remote r, c, a => ∃ lines, Dialogue.Yields (fun (_ : Unit) _ _ _ => True) (r.respond c) () lines a ()

lemma FileBackend.early_register {files : FileBackend} {authorization : Option String} {m : FileMetadata} {e : UploadError}
    (h : files.Gives (.register authorization m) (.error e)) : e.early = true := by
  cases files with
  | memory =>
    obtain ⟨registry, h⟩ := h
    simp only [FileRegistry.respond, FileRegistry.register] at h
    split at h <;> cases h
    rfl
  | remote r =>
    obtain ⟨lines, h⟩ := h
    obtain ⟨response, -, h⟩ := Dialogue.Yields.of_map h
    exact RemoteRegistry.early_ofRegistration h.symm

namespace Deployment

variable {σ : Type} {d : Deployment σ} {files : FileBackend} {x : Upload.Request} {r : Http.Request} {w : σ}
  {log : List Exchange} {v : σ × List (Step σ)} {e : UploadError}

/-- The registry of a deployment is of a kind; nothing is said of its other backends. -/
def Consults (d : Deployment σ) (files : FileBackend) : Prop :=
  ∀ {w c a w'}, d.Gives w (.registry c) a w' → files.Gives c a

lemma Consults.early_of_error (hd : d.Consults files)
    (h : x.Reaches d.config.policy d.traced.Gives (w, []) log (.done (.error e)) v) :
    x.chunk.checkPosition = .error e ∨ e.early = true := by
  obtain ⟨hlog, hgives⟩ := exchanges_of_reaches h
  rcases ((Upload.Request.Ended.judged h.forget).refused e).mp rfl with hposition | ⟨y, hy, hfailure⟩
  · exact .inl hposition
  right
  rcases Exchange.failure_cases hfailure with hearly | ⟨authorization, m, hregister⟩
  · exact hearly
  · rw [← hlog] at hy
    obtain ⟨s, hs, rfl⟩ := List.mem_map.mp hy
    obtain ⟨before, call, answer, after⟩ := s
    cases hregister
    exact FileBackend.early_register (hd (hgives _ hs))

lemma Consults.ne_stateConflict (hd : d.Consults files)
    (h : x.Reaches d.config.policy d.traced.Gives (w, []) log (.done (.error e)) v) (path : String) : e ≠ .stateConflict path := by
  rintro rfl
  rcases hd.early_of_error h with hposition | hearly
  · obtain ⟨detail, he⟩ := Chunk.exists_of_checkPosition hposition
    cases he
  · cases hearly

/-- What the answer to an upload says, by the calls that were made. -/
structure Tells (d : Deployment σ) (r : Http.Request) (steps : List (Step σ)) (reply : Reply) : Prop where
  outcome : reply.SaysStored ↔ ∃ x e, d.reading r = .ok x ∧
    x.Ended d.config.policy (steps.map (·.exchange x)) (.ok (.unrecorded e))
  stored : reply.SaysStored ↔ ∃ x, d.reading r = .ok x ∧ x.Announced (steps.map (·.exchange x)) ∧
    ∀ s ∈ steps, (s.exchange x).marks = false
  others : 400 ≤ reply.status → ¬ reply.SaysStored → ∀ x, d.reading r = .ok x → ¬ x.Announced (steps.map (·.exchange x))

lemma saysStored_uploadReply {result : Except UploadError Completion}
    (h : ∀ path, result ≠ .error (.stateConflict path)) :
    (d.uploadReply result).SaysStored ↔ ∃ e, result = .ok (.unrecorded e) := by
  cases result with
  | error e =>
    refine iff_of_false (fun hstated => ?_) nofun
    obtain ⟨path, rfl⟩ := (Failure.saysStored_upload _).mp hstated
    exact h path rfl
  | ok c =>
    cases c with
    | continuing | completed => exact iff_of_false (Reply.not_saysStored_bare _) nofun
    | unrecorded e => exact iff_of_true (Failure.saysStored_notification _ e) ⟨e, rfl⟩

lemma tells_of_ended {result : Except UploadError Completion} {steps : List (Step σ)} (hx : d.reading r = .ok x)
    (h : x.Ended d.config.policy (steps.map (·.exchange x)) result) (hresult : ∀ path, result ≠ .error (.stateConflict path)) :
    d.Tells r steps (d.uploadReply result) := by
  have hverdict := h.judged
  have hstated := saysStored_uploadReply (d := d) hresult
  have honly : ∀ y, d.reading r = .ok y → y = x := fun y hy => Except.ok.inj (hy.symm.trans hx)
  have hstored := hverdict.exists_unrecorded_iff
  rw [List.forall_mem_map] at hstored
  refine ⟨?_, ?_, ?_⟩
  · rw [hstated]
    constructor
    · rintro ⟨e, rfl⟩
      exact ⟨x, e, hx, h⟩
    · rintro ⟨y, e, hy, hended⟩
      obtain rfl := honly y hy
      exact ⟨e, hverdict.unique hended.judged⟩
  · rw [hstated, hstored]
    constructor
    · exact fun hannounced => ⟨x, hx, hannounced⟩
    · rintro ⟨y, hy, hannounced⟩
      obtain rfl := honly y hy
      exact hannounced
  · intro hstatus hnot y hy hannounced
    obtain rfl := honly y hy
    obtain ⟨c, rfl, hc⟩ := hverdict.announced.mp hannounced
    cases c with
    | continuing => cases hc
    | completed =>
      change 400 ≤ 201 at hstatus
      omega
    | unrecorded e => exact hnot (hstated.mpr ⟨e, rfl⟩)

lemma tells_of_idle {reply : Reply} (h : ¬ reply.SaysStored) : d.Tells r [] reply := by
  refine ⟨iff_of_false h ?_, iff_of_false h ?_, fun _ _ x _ => Upload.Request.not_announced_nil⟩
  · rintro ⟨x, e, -, hended⟩
    exact Upload.Request.not_announced_nil (hended.judged.announced.mpr ⟨_, rfl, rfl⟩)
  · rintro ⟨x, -, hannounced, -⟩
    exact Upload.Request.not_announced_nil hannounced

lemma arises_of_reading {e : RequestError} (h : d.reading r = .error e) : e.Arises := by
  rw [reading] at h
  split at h
  · next hdata =>
    cases h
    rw [formData] at hdata
    split at hdata <;> cases hdata
    exact .parsing _
  · next data hdata =>
    cases hread : FormDecoding.read data with
    | error e' =>
      rw [hread] at h
      cases h
      exact RequestError.arises_of_read hread
    | ok parts =>
      rw [hread] at h
      cases h

def InTime (d : Deployment σ) (r : Http.Request) (m : Moment σ) : Prop := ∀ x, d.reading r = .ok x → (d.serve x m).1 ≠ none

/-- An answer before the deadline says that the file is stored but not recorded just when the storage has reported it
complete and no mark was accepted; any other error says that nothing was reported. -/
theorem Consults.tells (hd : d.Consults files) (hr : r.IsUpload) {m : Moment σ} (hin : d.InTime r m) :
    ∃ reply, ((d.respond r).finish m).1 = some reply ∧ d.Tells r (d.steps r m) reply := by
  have htraced := d.finish_traced r m
  rcases respond_cases (d := d.traced) hr ⟨m.clock, m.world, []⟩ with hlong | ⟨e, hread, hunread⟩ | ⟨x, hread, hserve⟩
  · obtain ⟨hreply, hafter⟩ := Prod.ext_iff.mp (htraced.symm.trans hlong)
    have hsteps : d.steps r m = [] := congrArg (·.world.2) hafter
    rw [hsteps]
    exact ⟨_, hreply, tells_of_idle (Reply.not_saysStored_text _ _)⟩
  · obtain ⟨hreply, hafter⟩ := Prod.ext_iff.mp (htraced.symm.trans hunread)
    have hsteps : d.steps r m = [] := congrArg (·.world.2) hafter
    rw [hsteps]
    exact ⟨_, hreply, tells_of_idle ((arises_of_reading (d := d) hread).isFormal.not_saysStored _)⟩
  · obtain ⟨hreply, hafter⟩ := Prod.ext_iff.mp (htraced.symm.trans hserve)
    have hsteps : d.steps r m = (d.traced.serve x ⟨m.clock, m.world, []⟩).2.world.2 := congrArg (·.world.2) hafter
    obtain ⟨log, hends⟩ := exists_ends_upload (d := d.traced) x ⟨m.clock, m.world, []⟩
    have hlog := exchanges_of_ends hends
    cases hresult : (d.traced.serve x ⟨m.clock, m.world, []⟩).1 with
    | none => exact absurd ((d.serve_traced x m).symm.trans hresult) (hin x hread)
    | some result =>
      rw [hresult] at hends hreply
      rw [hsteps]
      cases hends with
      | answered hreaches =>
        subst hlog
        refine ⟨_, hreply, tells_of_ended (d := d) hread hreaches.forget ?_⟩
        rintro path rfl
        exact hd.ne_stateConflict hreaches path rfl

def forgetful : Deployment Unit where
  config := { encryptionDisabled := true, completionDigest := some .part }
  objectUrl := id
  perform
    | .storage (.put ..) => .done (.ok ⟨true, "e"⟩)
    | .storage (.head path) => .done (.error (.notFound path))
    | .storage .check => .done (.ok ())
    | .registry c => .done (FileRegistry.respond c .empty).1
    | .secret (.write ..) => .done (.ok ())
    | .secret (.read path _) => .done (.error (.notFound path))
    | .secret .check => .done (.ok ())
    | .freshKey => .done (.error "none")

lemma consults_forgetful : forgetful.Consults .memory := by
  rintro w c a w' ⟨deadline, clock, clock', hperform⟩
  cases hperform
  exact ⟨.empty, rfl⟩

theorem tells_forgetful : forgetful.InTime UploadClient.helloRequest ⟨0, ()⟩ ∧
    ∃ reply, ((forgetful.respond UploadClient.helloRequest).finish ⟨0, ()⟩).1 = some reply ∧ reply.SaysStored ∧
      forgetful.Tells UploadClient.helloRequest (forgetful.steps UploadClient.helloRequest ⟨0, ()⟩) reply := by
  obtain ⟨hread, hrespond⟩ := respond_of_uploads (d := forgetful) UploadClient.uploads_hello UploadClient.read_hello ⟨0, ()⟩
  have hresult : (forgetful.serve (described UploadClient.helloRequest (.least 5 1) UploadClient.hello) ⟨0, ()⟩).1 =
      some (.ok (.unrecorded (.fileNotFound "a"))) := by
    rfl
  have hin : forgetful.InTime UploadClient.helloRequest ⟨0, ()⟩ := by
    intro x hx
    obtain rfl := Except.ok.inj (hx.symm.trans hread)
    rw [hresult]
    exact nofun
  obtain ⟨reply, hreply, htells⟩ := consults_forgetful.tells
    ⟨UploadClient.uploads_hello.method, UploadClient.uploads_hello.path⟩ hin
  have hanswer := congrArg Prod.fst hrespond
  rw [hresult] at hanswer
  obtain rfl := Option.some.inj (hreply.symm.trans hanswer)
  exact ⟨hin, _, hreply, Failure.saysStored_notification _ _, htells⟩

end Deployment

end ResumableUpload
