import ResumableUpload.Client.Upload
import ResumableUpload.Form.Decoding
import ResumableUpload.Proofs.Http.Multipart

/-! What the service reads from the form of a client. The forms of the chunks of one file differ in their numbers
alone, and all of them hold the rules if one does. -/

namespace ResumableUpload

def Http.FormField.entry (f : FormField) : String × String := (f.name, f.received.textOf f.content)

lemma bind_eq_ok {ε α β : Type} {x : Except ε α} {f : α → Except ε β} {b : β} :
    x >>= f = .ok b ↔ ∃ a, x = .ok a ∧ f a = .ok b := by
  cases x with
  | error e => simp [bind, Except.bind]
  | ok a => simp [bind, Except.bind]

lemma readBool?_eq_some {s : String} {b : Bool} : readBool? s = some b ↔ s = toString b := by
  rw [readBool?.eq_def]
  constructor
  · intro h
    split at h <;> cases h <;> rfl
  · rintro rfl
    cases b <;> rfl

namespace FormFields

variable {before after fields fields' : FormFields} {name n v : String}

lemma text?_skip (h : n ≠ name) : text? (before ++ (n, v) :: after) name = text? (before ++ after) name := by
  simp [text?, List.find?_append, h]

lemma text?_last (h : ∀ e ∈ after, e.1 ≠ n) :
    text? (before ++ (n, v) :: after) n = (some (Text.trim v)).filter (· ≠ "") := by
  have hafter : after.reverse.find? (·.1 = n) = none := by
    rw [List.find?_eq_none]
    intro e he
    simpa using h e (List.mem_reverse.mp he)
  simp [text?, List.find?_append, hafter]

lemma parsed?_congr {α : Type} (read : String → Option α) (h : fields.text? name = fields'.text? name) :
    fields.parsed? read name = fields'.parsed? read name := by
  rw [parsed?, h]
  rfl

lemma parsed?_eq_some {α : Type} {read : String → Option α} {a : α} :
    fields.parsed? read name = .ok (some a) ↔ ∃ s, fields.text? name = some s ∧ read s = some a := by
  rw [parsed?]
  cases fields.text? name with
  | none => simp
  | some s => cases hs : read s <;> simp [hs]

lemma parsed?_number {k : Nat} (hk : k < UInt32.size) (h : ∀ e ∈ after, e.1 ≠ n) :
    parsed? (before ++ (n, toString k) :: after) Text.Decimal.readUInt32? n = .ok (some (.ofNat k)) := by
  apply parsed?_eq_some.mpr
  refine ⟨toString k, ?_, Text.Decimal.readUInt32?_toString hk⟩
  rw [text?_last h, Text.Decimal.trim_filter_toString]

end FormFields

namespace UploadForm

variable {before after fields : FormFields} {form : UploadForm}

def ofChunk (form : UploadForm) (n : Nat) : UploadForm := { form with chunkNumber := some (.ofNat n) }

lemma ofFields_totalChunks (h : ofFields fields = .ok form) :
    fields.parsed? Text.Decimal.readUInt32? "resumableTotalChunks" = .ok form.totalChunks := by
  simp only [ofFields, bind_eq_ok] at h
  obtain ⟨_, _, _, _, _, _, _, htotal, hform⟩ := h
  cases hform
  exact htotal

lemma ofFields_ofChunk {n k : Nat} (hk : k < UInt32.size) (hafter : ∀ e ∈ after, e.1 ≠ "resumableChunkNumber")
    (h : ofFields (before ++ ("resumableChunkNumber", toString n) :: after) = .ok form) :
    ofFields (before ++ ("resumableChunkNumber", toString k) :: after) = .ok (form.ofChunk k) := by
  have hsame : ∀ name, "resumableChunkNumber" ≠ name →
      FormFields.text? (before ++ ("resumableChunkNumber", toString n) :: after) name =
        FormFields.text? (before ++ ("resumableChunkNumber", toString k) :: after) name :=
    fun name hname => (FormFields.text?_skip hname).trans (FormFields.text?_skip hname).symm
  simp only [ofFields, bind_eq_ok] at h ⊢
  obtain ⟨isPublishable, hpublishable, totalSize, hsize, _, _, totalChunks, htotal, hform⟩ := h
  rw [FormFields.parsed?_congr _ (hsame _ (by decide))] at hpublishable hsize htotal
  cases hform
  refine ⟨_, hpublishable, _, hsize, _, FormFields.parsed?_number hk hafter, _, htotal, ?_⟩
  simp (disch := decide) only [hsame]
  rfl

lemma broken_eq_nil : form.broken = [] ↔ ∀ rule ∈ fieldRules ++ formRules, form.breaks rule = false := by
  have hfields : fieldRules.filter form.breaks = [] ↔ ∀ rule ∈ fieldRules, form.breaks rule = false := by
    simp [List.filter_eq_nil_iff]
  have hform : (formRules.find? form.breaks).toList = [] ↔ ∀ rule ∈ formRules, form.breaks rule = false := by
    simp [List.find?_eq_none]
  rw [broken, List.forall_mem_append, ← hfields, ← hform]
  split
  · next he => simp [he]
  · next hne => exact ⟨fun he => absurd he hne, fun he => he.1⟩

lemma check_eq_ok : form.check = .ok () ↔ ∀ rule ∈ fieldRules ++ formRules, form.breaks rule = false := by
  have hviolations : form.violations = [] ↔ form.broken = [] := by
    rw [violations, ← List.length_eq_zero_iff, List.length_mergeSort, List.length_map, List.length_eq_zero_iff]
  rw [check, ← broken_eq_nil, ← hviolations]
  split
  · next h => simp [h]
  · next h => simp [h]

lemma check_ofChunk {total : UInt32} {k : Nat} (ht : form.totalChunks = some total) (h : form.check = .ok ())
    (hpos : 1 ≤ k) (hle : k ≤ total.toNat) : (form.ofChunk k).check = .ok () := by
  rw [check_eq_ok] at h ⊢
  have hk : (UInt32.ofNat k).toNat = k := by
    apply UInt32.toNat_ofNat_of_lt'
    exact Nat.lt_of_le_of_lt hle total.toNat_lt
  have hrange : isChunkCount total = true := by
    have hbreaks := h .totalChunksRange (by decide)
    simpa [breaks, ht] using hbreaks
  intro rule hrule
  cases rule with
  | chunkNumberRange =>
    have hmax : total.toNat ≤ maxChunks := by simpa [isChunkCount] using (Bool.and_eq_true_iff.mp hrange).2
    have hcount : isChunkCount (.ofNat k) = true := by
      simp only [isChunkCount, hk, Bool.and_eq_true, decide_eq_true_eq]
      exact ⟨hpos, hle.trans hmax⟩
    simp [breaks, ofChunk, hcount]
  | numberWithinTotal =>
    have hlt : ¬ total < .ofNat k := by
      rw [UInt32.lt_iff_toNat_lt, hk]
      exact Nat.not_lt.mpr hle
    simp [breaks, ofChunk, ht, hlt]
  | required field =>
    cases field with
    | chunkNumber => rfl
    | _ => exact h (.required _) hrule
  | _ => exact h _ hrule

end UploadForm

namespace FormDecoding

open Http (FormField)

lemma collect_text {texts : List FormField} (h : ∀ f ∈ texts, f.name ≠ fileField) (fields : FormFields)
    (rest : List Http.FormPart) :
    collect true (texts.map FormField.received ++ rest) fields none =
      collect true rest (fields ++ texts.map FormField.entry) none := by
  induction texts generalizing fields with
  | nil => simp
  | cons f texts ih =>
    have hname : f.received.name ≠ fileField := h f List.mem_cons_self
    have htexts := ih (fun g hg => h g (List.mem_cons_of_mem _ hg)) (fields ++ [f.entry])
    rw [List.append_assoc] at htexts
    simp only [List.map_cons, List.cons_append, collect, if_neg hname]
    exact htexts

lemma read_eq_ok {texts : List FormField} (h : ∀ f ∈ texts, f.name ≠ fileField) {fileName : Option String}
    {bytes payload : Bytes} {form : UploadForm} :
    read ⟨(texts ++ [FormField.mk fileField fileName bytes]).map FormField.received, true⟩ = .ok (form, payload) ↔
      UploadForm.ofFields (texts.map FormField.entry) = .ok form ∧ form.check = .ok () ∧ payload = bytes := by
  have hdata : ofFormData ⟨(texts ++ [FormField.mk fileField fileName bytes]).map FormField.received, true⟩ =
      .ok (texts.map FormField.entry, some bytes) := by
    rw [List.map_append]
    exact collect_text h [] _
  rw [read, hdata]
  simp only [bind_eq_ok]
  constructor
  · rintro ⟨_, ⟨⟩, found, hfound, _, hcheck, ⟨⟩⟩
    exact ⟨hfound, hcheck, rfl⟩
  · rintro ⟨hfound, hcheck, rfl⟩
    exact ⟨_, rfl, _, hfound, _, hcheck, rfl⟩

end FormDecoding

namespace UploadClient

open Http (FormField)

variable {m : FileMetadata} {n k total : Nat} {form : UploadForm} {first bytes payload : Bytes}

lemma exists_fields (m : FileMetadata) : ∃ before after : List FormField,
    (∀ f ∈ before ++ after, f.name ∉ [FormDecoding.fileField, "resumableChunkNumber", "resumableTotalChunks"]) ∧
    ∀ n total bytes, uploadForm m n total bytes =
      (before ++ .text "resumableChunkNumber" (toString n) :: .text "resumableTotalChunks" (toString total) :: after) ++
        [FormField.mk FormDecoding.fileField (some m.fileName) bytes] := by
  refine ⟨(uploadForm m 0 0 .empty).take 7, (uploadForm m 0 0 .empty).dropLast.drop 9, ?_, fun n total bytes => ?_⟩
  · rw [uploadForm, List.dropLast_concat]
    cases m.collectionId <;> cases m.bundleId <;> cases m.contentItem <;>
      simp [FormField.text, FormDecoding.fileField]
  · rw [uploadForm, uploadForm, List.dropLast_concat]
    rfl

lemma exists_entries (m : FileMetadata) : ∃ before after : FormFields,
    (∀ e ∈ after, e.1 ≠ "resumableChunkNumber" ∧ e.1 ≠ "resumableTotalChunks") ∧ ∀ n total bytes form payload,
      FormDecoding.read ⟨(uploadForm m n total bytes).map FormField.received, true⟩ = .ok (form, payload) ↔
        UploadForm.ofFields (before ++ ("resumableChunkNumber", toString n) ::
          ("resumableTotalChunks", toString total) :: after) = .ok form ∧ form.check = .ok () ∧ payload = bytes := by
  obtain ⟨before, after, hnames, heq⟩ := exists_fields m
  have hentry : ∀ (name : String) (k : Nat), (FormField.text name (toString k)).entry = (name, toString k) :=
    fun name k => congrArg (name, ·) (Text.Decimal.decode_toString k)
  refine ⟨before.map FormField.entry, after.map FormField.entry, ?_, fun n total bytes form payload => ?_⟩
  · intro e he
    obtain ⟨f, hf, rfl⟩ := List.mem_map.mp he
    have hname := hnames f (List.mem_append_right _ hf)
    simp only [List.mem_cons, List.not_mem_nil, or_false, not_or] at hname
    exact hname.2
  · have htexts : ∀ f ∈ before ++ FormField.text "resumableChunkNumber" (toString n) ::
        FormField.text "resumableTotalChunks" (toString total) :: after, f.name ≠ FormDecoding.fileField := by
      intro f hf
      simp only [List.mem_append, List.mem_cons] at hf
      rcases hf with hf | rfl | rfl | hf
      · exact fun he => hnames f (List.mem_append_left _ hf) (he ▸ List.mem_cons_self)
      · exact (by decide : "resumableChunkNumber" ≠ FormDecoding.fileField)
      · exact (by decide : "resumableTotalChunks" ≠ FormDecoding.fileField)
      · exact fun he => hnames f (List.mem_append_right _ hf) (he ▸ List.mem_cons_self)
    rw [heq, FormDecoding.read_eq_ok htexts, List.map_append, List.map_cons, List.map_cons, hentry, hentry]

theorem read_form {m : FileMetadata} {n total : Nat} {form : UploadForm} {bytes payload : Bytes}
    (htotal : total < UInt32.size)
    (h : FormDecoding.read ⟨(uploadForm m n total bytes).map FormField.received, true⟩ = .ok (form, payload)) :
    form.totalChunks = some (.ofNat total) ∧ ∀ k bytes, 1 ≤ k → k ≤ total →
      FormDecoding.read ⟨(uploadForm m k total bytes).map FormField.received, true⟩ = .ok (form.ofChunk k, bytes) := by
  obtain ⟨before, after, hnames, hread⟩ := exists_entries m
  obtain ⟨hform, hcheck, -⟩ := (hread ..).mp h
  have hafter : ∀ e ∈ (("resumableTotalChunks", toString total) :: after : FormFields),
      e.1 ≠ "resumableChunkNumber" := by
    rw [List.forall_mem_cons]
    exact ⟨by simp, fun e he => (hnames e he).1⟩
  have htotals : form.totalChunks = some (.ofNat total) := by
    have hparsed := UploadForm.ofFields_totalChunks hform
    rw [List.append_cons, FormFields.parsed?_number htotal fun e he => (hnames e he).2] at hparsed
    exact (Except.ok.inj hparsed).symm
  refine ⟨htotals, fun k bytes hpos hle => (hread ..).mpr ⟨?_, ?_, rfl⟩⟩
  · exact UploadForm.ofFields_ofChunk (hle.trans_lt htotal) hafter hform
  · apply UploadForm.check_ofChunk htotals hcheck hpos
    rwa [UInt32.toNat_ofNat_of_lt' htotal]

end UploadClient

end ResumableUpload
