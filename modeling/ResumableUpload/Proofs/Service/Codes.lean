import ResumableUpload.Proofs.Form.Description
import ResumableUpload.Service.Reply

/-! Which codes the answers of the service carry. -/

namespace ResumableUpload

namespace ErrorList

lemma toJson_injective : Function.Injective toJson := by
  intro l l' h
  have hitems : l.errors.map ErrorEntry.toJson = l'.errors.map ErrorEntry.toJson := by simpa [toJson] using h
  have hentry : Function.Injective ErrorEntry.toJson := by
    intro e e' he
    obtain ⟨code, description⟩ := e
    obtain ⟨code', description'⟩ := e'
    simpa [ErrorEntry.toJson] using he
  cases l
  cases l'
  exact congrArg _ (List.map_injective_iff.mpr hentry hitems)

end ErrorList

namespace Service

def Reply.Carries (reply : Reply) (code : String) : Prop :=
  ∃ l : ErrorList, reply.content = .json l.toJson ∧ code ∈ l.errors.map (·.code)

def Reply.SaysStored (reply : Reply) : Prop := reply.Carries "NotificationFailed" ∨ reply.Carries "FileStateConflict"

namespace Reply

variable {code : String}

lemma carries_json (status : Nat) (l : ErrorList) : (json status l.toJson).Carries code ↔ code ∈ l.errors.map (·.code) := by
  constructor
  · rintro ⟨l', hcontent, hcode⟩
    rw [ErrorList.toJson_injective (Content.json.inj hcontent)]
    exact hcode
  · exact fun h => ⟨l, rfl, h⟩

lemma not_saysStored_bare (status : Nat) : ¬ (bare status).SaysStored := by
  rintro (⟨l, hcontent, -⟩ | ⟨l, hcontent, -⟩) <;> cases hcontent

lemma not_saysStored_text (status : Nat) (s : String) : ¬ (text status s).SaysStored := by
  rintro (⟨l, hcontent, -⟩ | ⟨l, hcontent, -⟩) <;> cases hcontent

end Reply

namespace Failure

variable {e : UploadError} (expose : Bool)

lemma carries_uploadReply {code : String} : (uploadReply e expose).Carries code ↔ code = e.presentation.code := by
  rw [uploadReply, Reply.carries_json]
  simp [ErrorList.single]

lemma saysStored_upload : (Failure.reply expose (.upload e)).SaysStored ↔ ∃ path, e = .stateConflict path := by
  rw [reply, Reply.SaysStored, carries_uploadReply, carries_uploadReply]
  cases e <;> simp [UploadError.presentation]

lemma saysStored_notification (e : UploadError) : (Failure.reply expose (.notification e)).SaysStored := by
  rw [Reply.SaysStored]
  by_cases h : ∃ path, e = .stateConflict path
  · obtain ⟨path, rfl⟩ := h
    exact .inr ((carries_uploadReply expose).mpr rfl)
  · left
    rw [reply]
    · exact (Reply.carries_json _ _).mpr List.mem_cons_self
    · exact fun path he => h ⟨path, he⟩

lemma le_status_reply (f : Failure) : 400 ≤ (f.reply expose).status := by
  cases f with
  | request e => exact Nat.le_refl 400
  | upload e => cases e <;> simp [reply, uploadReply, Reply.json, UploadError.presentation]
  | notification e => cases e <;> simp [reply, uploadReply, Reply.json, UploadError.presentation]

end Failure

end Service

def RequestError.IsFormal (e : RequestError) : Prop :=
  ∀ entry ∈ e.errorList.errors, entry.code ∈ ["ParsingForm", "FileForm", "ValidationError"]

lemma bind_eq_error {ε α β : Type} {x : Except ε α} {f : α → Except ε β} {e : ε} (h : x >>= f = .error e) :
    x = .error e ∨ ∃ a, x = .ok a ∧ f a = .error e := by
  cases x with
  | error e' =>
    cases h
    exact .inl rfl
  | ok a => exact .inr ⟨a, rfl, h⟩

namespace RequestError

inductive Arises : RequestError → Prop
  | parsing (detail : String) : Arises (.parsingForm detail)
  | file (detail : String) : Arises (.fileForm detail)
  | rules {form : UploadForm} {e : RequestError} : form.check = .error e → Arises e

variable {e : RequestError}

lemma arises_of_parsed? {α : Type} {fields : FormFields} {read : String → Option α} {name : String}
    (h : fields.parsed? read name = .error e) : e.Arises := by
  rw [FormFields.parsed?] at h
  split at h
  · cases h
  · split at h <;> cases h
    exact .parsing _

lemma arises_of_ofFields {fields : FormFields} (h : UploadForm.ofFields fields = .error e) : e.Arises := by
  rw [UploadForm.ofFields] at h
  rcases bind_eq_error h with h | ⟨_, -, h⟩
  · exact arises_of_parsed? h
  rcases bind_eq_error h with h | ⟨_, -, h⟩
  · exact arises_of_parsed? h
  rcases bind_eq_error h with h | ⟨_, -, h⟩
  · exact arises_of_parsed? h
  rcases bind_eq_error h with h | ⟨_, -, h⟩
  · exact arises_of_parsed? h
  · cases h

lemma arises_of_collect {closed : Bool} {parts : List Http.FormPart} {fields : FormFields} {file : Option Bytes}
    (h : FormDecoding.collect closed parts fields file = .error e) : e.Arises := by
  induction parts generalizing fields file with
  | nil =>
    rw [FormDecoding.collect] at h
    split at h <;> cases h
    exact .parsing _
  | cons part rest ih =>
    rw [FormDecoding.collect.eq_def] at h
    dsimp only at h
    split at h
    · split at h
      · cases h
        exact .file _
      · cases h
        exact .file _
      · exact ih h
    · split at h
      · cases h
        exact .parsing _
      · exact ih h

lemma arises_of_read {data : Http.FormData} (h : FormDecoding.read data = .error e) : e.Arises := by
  rw [FormDecoding.read] at h
  rcases bind_eq_error h with h | ⟨⟨fields, file⟩, -, h⟩
  · exact arises_of_collect h
  rcases bind_eq_error h with h | ⟨form, -, h⟩
  · exact arises_of_ofFields h
  rcases bind_eq_error h with h | ⟨_, -, h⟩
  · exact .rules h
  · cases file with
    | some payload => cases h
    | none =>
      cases h
      exact .file _

lemma exists_of_check {form : UploadForm} (h : form.check = .error e) :
    ∃ rules : List UploadForm.Rule, rules ≠ [] ∧ e.errorList.errors.Perm (rules.map UploadForm.Rule.entry) := by
  rw [UploadForm.check] at h
  split at h
  · cases h
  · next hne =>
    cases h
    have hperm : form.violations.Perm (form.broken.map UploadForm.Rule.entry) := List.mergeSort_perm _ _
    refine ⟨form.broken, ?_, hperm⟩
    intro hnil
    rw [hnil] at hperm
    exact hne hperm.eq_nil

lemma Arises.isFormal (h : e.Arises) : e.IsFormal := by
  cases h with
  | parsing detail => simp [IsFormal, errorList, ErrorList.single]
  | file detail => simp [IsFormal, errorList, ErrorList.single]
  | rules hcheck =>
    obtain ⟨rules, -, hperm⟩ := exists_of_check hcheck
    intro entry hentry
    obtain ⟨rule, -, rfl⟩ := List.mem_map.mp (hperm.mem_iff.mp hentry)
    simp [UploadForm.Rule.entry]

lemma Arises.errors_ne_nil (h : e.Arises) : e.errorList.errors ≠ [] := by
  cases h with
  | parsing detail => exact List.cons_ne_nil _ _
  | file detail => exact List.cons_ne_nil _ _
  | rules hcheck =>
    obtain ⟨rules, hrules, hperm⟩ := exists_of_check hcheck
    intro hnil
    rw [hnil] at hperm
    exact hrules (List.map_eq_nil_iff.mp hperm.nil_eq.symm)

lemma IsFormal.not_saysStored (h : e.IsFormal) (expose : Bool) : ¬ (Service.Failure.reply expose (.request e)).SaysStored := by
  have hcode : ∀ code ∈ ["NotificationFailed", "FileStateConflict"], code ∉ e.errorList.errors.map (·.code) := by
    intro code hcode hmem
    obtain ⟨entry, hentry, rfl⟩ := List.mem_map.mp hmem
    have hformal := h entry hentry
    simp only [List.mem_cons, List.not_mem_nil, or_false] at hcode hformal
    rcases hformal with hf | hf | hf <;> rw [hf] at hcode <;> revert hcode <;> decide
  rintro (hcarries | hcarries)
  · exact hcode _ (by simp) ((Service.Reply.carries_json _ _).mp hcarries)
  · exact hcode _ (by simp) ((Service.Reply.carries_json _ _).mp hcarries)

end RequestError

end ResumableUpload
