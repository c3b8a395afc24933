import ResumableUpload.Proofs.Form.Admission
import ResumableUpload.Proofs.Service.Distinction

/-! A request whose form is not right touches nothing, and every other one reaches the upload with what its form says. -/

namespace ResumableUpload

open Service (Failure Reply)

namespace UploadForm

lemma description_ne (rule : Rule) (detail : String) : rule.description ≠ (UploadError.invalidPosition detail).message := by
  have hrule : rule.description.toList.take 2 ≠ ['i', 'n'] := by
    cases rule with
    | required field => cases field <;> simp [Rule.description, Field.name, toString]
    | _ => simp [Rule.description, Field.name, toString]
  have hmessage : (UploadError.invalidPosition detail).message.toList = "invalid chunk position: ".toList ++ detail.toList := by
    apply String.toList_append
  intro h
  apply hrule
  rw [h, hmessage, List.take_append_of_le_length (by decide)]
  decide

end UploadForm

namespace Service.Failure

variable {expose : Bool} {detail : String}

lemma reply_invalidPosition (expose : Bool) (detail : String) : reply expose (.upload (.invalidPosition detail)) =
    .json 400 (ErrorList.single "ValidationError" (UploadError.invalidPosition detail).message).toJson := by
  cases expose <;> rfl

lemma reply_request_ne {e : RequestError} (h : e.Arises) :
    reply expose (.request e) ≠ reply expose (.upload (.invalidPosition detail)) := by
  intro heq
  rw [reply_invalidPosition, reply] at heq
  have herrors : e.errorList.errors = [⟨"ValidationError", (UploadError.invalidPosition detail).message⟩] :=
    congrArg ErrorList.errors (ErrorList.toJson_injective (Content.json.inj (congrArg Reply.content heq)))
  cases h with
  | parsing _ => simp [RequestError.errorList, ErrorList.single] at herrors
  | file _ => simp [RequestError.errorList, ErrorList.single] at herrors
  | rules hcheck =>
    obtain ⟨rules, -, hperm⟩ := RequestError.exists_of_check hcheck
    rw [herrors] at hperm
    obtain ⟨rule, -, hrule⟩ := List.mem_map.mp (hperm.mem_iff.mp List.mem_cons_self)
    exact UploadForm.description_ne rule detail (congrArg ErrorEntry.description hrule)

lemma reply_upload_ne {e : UploadError} (h : ∀ detail, e ≠ .invalidPosition detail) :
    reply expose (.upload e) ≠ reply expose (.upload (.invalidPosition detail)) := by
  intro heq
  have hcode : (reply expose (.upload e)).Carries "ValidationError" := by
    rw [heq]
    exact (carries_uploadReply expose).mpr rfl
  have hpresented : "ValidationError" = e.presentation.code := (carries_uploadReply expose).mp hcode
  cases e with
  | invalidPosition detail => exact h detail rfl
  | _ => simp [UploadError.presentation] at hpresented

lemma reply_notification_ne {e : UploadError} :
    reply expose (.notification e) ≠ reply expose (.upload (.invalidPosition detail)) := by
  intro heq
  have hstatus : (reply expose (.notification e)).status = 400 := by
    rw [heq]
    rfl
  cases e <;> simp [reply, uploadReply, Reply.json, UploadError.presentation] at hstatus

end Service.Failure

namespace Deployment

variable {σ : Type} {d : Deployment σ} {r : Http.Request} {data : Http.FormData} {m : Moment σ} {files : FileBackend}

structure Receives (d : Deployment σ) (r : Http.Request) (data : Http.FormData) : Prop where
  upload : r.IsUpload
  length : d.announced r ≤ d.config.maxChunkBytes.toNat
  data : formData (d.announced r) r = .ok data

lemma Receives.reading_eq (h : d.Receives r data) :
    d.reading r = (FormDecoding.read data).map fun parts => described r parts.1 parts.2 := by
  rw [reading, h.data]

lemma Receives.respond (h : d.Receives r data) : (d.respond r).finish m = d.respondUpload (d.announced r) r none m := by
  rw [respond_eq h.upload, if_neg (Nat.not_lt.mpr h.length)]

lemma Receives.of_uploads {fields : List Http.FormField} (h : r.Uploads d.config.maxChunkBytes.toNat fields) :
    d.Receives r ⟨fields.map Http.FormField.received, true⟩ :=
  ⟨⟨h.method, h.path⟩, (announced_length h).2, formData_upload h⟩

structure Enters (d : Deployment σ) (r : Http.Request) (data : Http.FormData) (m : Moment σ) (x : Upload.Request) : Prop where
  authorization : x.authorization = r.textHeader? "authorization"
  described : data.Describes x.metadata x.chunk x.payload
  position : x.chunk.checkPosition = .ok ()
  answer : (d.respond r).finish m = (some (d.uploadReply ((d.serve x m).1.getD (.error .timeout))), (d.serve x m).2)

structure Refuses (d : Deployment σ) (r : Http.Request) (m : Moment σ) : Prop where
  idle : d.steps r m = []
  answer : ∃ e : RequestError, e.IsFormal ∧ e.errorList.errors ≠ [] ∧
    (d.respond r).finish m = (some (.json 400 e.errorList.toJson), m)

lemma uploadReply_ne {result : Except UploadError Completion} {detail : String}
    (h : ∀ detail, result ≠ .error (.invalidPosition detail)) :
    d.uploadReply result ≠ d.fail (.upload (.invalidPosition detail)) := by
  cases result with
  | error e =>
    apply Failure.reply_upload_ne
    rintro detail rfl
    exact h detail rfl
  | ok c =>
    cases c with
    | unrecorded e => exact Failure.reply_notification_ne
    | continuing | completed =>
      intro heq
      cases congrArg Reply.status heq

lemma Consults.serve_ne (hd : d.Consults files) {x : Upload.Request} (hx : x.chunk.checkPosition = .ok ()) (detail : String) :
    (d.serve x m).1.getD (.error .timeout) ≠ .error (.invalidPosition detail) := by
  obtain ⟨log, hends⟩ := exists_ends_upload (d := d.traced) x ⟨m.clock, m.world, []⟩
  rw [← serve_traced]
  cases hresult : (d.traced.serve x ⟨m.clock, m.world, []⟩).1 with
  | none => exact nofun
  | some result =>
    rw [hresult] at hends
    rw [Option.getD_some]
    rintro rfl
    cases hends with
    | answered hreaches =>
      rcases hd.early_of_error hreaches with hposition | hearly
      · cases hx.symm.trans hposition
      · cases hearly

lemma Receives.enters (h : d.Receives r data) {form : UploadForm} {payload : Bytes}
    (hread : FormDecoding.read data = .ok (form, payload)) : d.Enters r data m (described r form payload) := by
  have hreading : d.reading r = .ok (described r form payload) := by
    rw [h.reading_eq, hread]
    rfl
  obtain ⟨-, -, -, hsound⟩ := FormDecoding.read_eq_ok_iff.mp hread
  exact {
    authorization := rfl
    described := FormDecoding.describes_of_read hread
    position := (Chunk.checkPosition_eq_ok_iff _).mpr hsound.inRange
    answer := h.respond.trans (respondUpload_of_reading hreading) }

lemma Receives.traced (h : d.Receives r data) : d.traced.Receives r data := ⟨h.upload, h.length, h.data⟩

lemma Receives.refuses (h : d.Receives r data) {e : RequestError} (hread : d.reading r = .error e) : d.Refuses r m := by
  have hanswer : ∀ {τ : Type} {d' : Deployment τ} (m' : Moment τ), d'.Receives r data → d'.reading r = .error e →
      (d'.respond r).finish m' = (some (.json 400 e.errorList.toJson), m') :=
    fun _ h' hread' => h'.respond.trans (respondUpload_of_unread hread')
  have htraced := (d.finish_traced r m).symm.trans (hanswer ⟨m.clock, m.world, []⟩ h.traced hread)
  have harises := arises_of_reading hread
  refine ⟨?_, e, harises.isFormal, harises.errors_ne_nil, hanswer m h hread⟩
  exact congrArg (·.2.world.2) htraced

/-- Whatever a form says, it is either refused with no effect or handed on with all that was required as it was given. No
answer is about the place of the chunk. -/
theorem Receives.admission (h : d.Receives r data) (m : Moment σ) :
    (data.Admissible → ∃ x, d.Enters r data m x) ∧ (¬ data.Admissible → d.Refuses r m) ∧
      ∀ files, d.Consults files → ∀ detail, ((d.respond r).finish m).1 ≠ some (d.fail (.upload (.invalidPosition detail))) := by
  refine ⟨?_, ?_, ?_⟩
  · intro hdata
    obtain ⟨form, payload, hread⟩ := FormDecoding.exists_read_iff.mpr hdata
    exact ⟨_, h.enters hread⟩
  · intro hdata
    cases hread : FormDecoding.read data with
    | error e =>
      apply h.refuses
      rw [h.reading_eq, hread]
      rfl
    | ok parts => exact absurd (FormDecoding.exists_read_iff.mp ⟨_, _, hread⟩) hdata
  · intro files hd detail hreply
    cases hread : FormDecoding.read data with
    | error e =>
      have hreading : d.reading r = .error e := by
        rw [h.reading_eq, hread]
        rfl
      rw [h.respond, respondUpload_of_unread hreading] at hreply
      exact Failure.reply_request_ne (arises_of_reading hreading) (Option.some.inj hreply)
    | ok parts =>
      have henters := h.enters (m := m) hread
      rw [henters.answer] at hreply
      exact uploadReply_ne (hd.serve_ne henters.position) (Option.some.inj hreply)

lemma read_empty (boundary : String) : Http.FormData.read boundary .empty = .unreadable := by
  have hnone : Bytes.hasAt .empty ("--" ++ boundary).toUTF8 0 = false := by
    rw [Bool.eq_false_iff, ne_eq, Bytes.hasAt_iff, Text.Charset.octets_toUTF8, String.toList_append]
    intro hprefix
    have hnil := List.prefix_nil.mp hprefix
    cases hnil
  rw [Http.FormData.read, Bytes.findFrom, hnone]
  rfl

def emptyRequest : Http.Request := { UploadClient.helloRequest with body := .empty }

theorem admission_hello : (∃ data, forgetful.Receives UploadClient.helloRequest data ∧
      (∃ x, forgetful.Enters UploadClient.helloRequest data ⟨0, ()⟩ x) ∧
      ∀ detail, ((forgetful.respond UploadClient.helloRequest).finish ⟨0, ()⟩).1 ≠
        some (forgetful.fail (.upload (.invalidPosition detail)))) ∧
    forgetful.Receives emptyRequest .unreadable ∧ forgetful.Refuses emptyRequest ⟨0, ()⟩ := by
  have hhello : forgetful.Receives UploadClient.helloRequest _ := .of_uploads UploadClient.uploads_hello
  have hempty : forgetful.Receives emptyRequest .unreadable := by
    obtain ⟨boundary, hboundary, -⟩ := UploadClient.uploads_hello.data
    have hsame : emptyRequest.textHeader? "content-type" = UploadClient.helloRequest.textHeader? "content-type" := rfl
    have hshort : ¬ forgetful.announced emptyRequest < emptyRequest.body.size := Nat.not_lt_zero _
    refine ⟨⟨rfl, rfl⟩, Nat.le_refl _, ?_⟩
    rw [formData, hsame, hboundary]
    dsimp only
    rw [if_neg hshort]
    exact congrArg Except.ok (read_empty boundary)
  obtain ⟨henters, -, hposition⟩ := hhello.admission ⟨0, ()⟩
  obtain ⟨-, hrefuses, -⟩ := hempty.admission ⟨0, ()⟩
  refine ⟨⟨_, hhello, ?_, ?_⟩, hempty, ?_⟩
  · apply henters
    exact FormDecoding.exists_read_iff.mp ⟨_, _, UploadClient.read_hello⟩
  · exact hposition .memory consults_forgetful
  · apply hrefuses
    intro hdata
    cases hdata.whole.closed

end Deployment

end ResumableUpload
