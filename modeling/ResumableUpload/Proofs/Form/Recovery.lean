import ResumableUpload.Proofs.Form.Description
import ResumableUpload.Proofs.Http.Url

/-! A form that a client fills in gives back the metadata and the place of the chunk that went into it, in whatever
order its fields come. -/

namespace ResumableUpload

open Http (FormField)

namespace FormFields

variable {fields : FormFields} {form : List FormField} {name v : String}

def Carry (fields : FormFields) (form : List FormField) : Prop :=
  (fields.map fun e => FormField.text e.1 e.2).Perm (form.filter (·.fileName.isNone))

lemma text_injective {n n' v v' : String} (h : FormField.text n v = FormField.text n' v') : (n, v) = (n', v') := by
  obtain ⟨rfl, -, hcontent⟩ := FormField.mk.inj h
  have hdecode := congrArg Text.Utf8.decode? hcontent
  rw [Text.Utf8.decode?_toUTF8, Text.Utf8.decode?_toUTF8] at hdecode
  rw [Option.some.inj hdecode]

namespace Carry

lemma names_perm (h : fields.Carry form) :
    (fields.map (·.1)).Perm ((form.filter (·.fileName.isNone)).map (·.name)) := by
  have hnames := h.map (·.name)
  rwa [List.map_map] at hnames

lemma nodup (h : fields.Carry form) (hn : (form.map (·.name)).Nodup) : (fields.map (·.1)).Nodup :=
  h.names_perm.nodup_iff.mpr (hn.sublist (List.filter_sublist.map _))

lemma text?_of_mem (h : fields.Carry form) (hn : (form.map (·.name)).Nodup) (hf : FormField.text name v ∈ form) :
    fields.text? name = (some (Text.trim v)).filter (· ≠ "") := by
  obtain ⟨e, he, heq⟩ := List.mem_map.mp (h.mem_iff.mpr (List.mem_filter.mpr ⟨hf, rfl⟩))
  obtain rfl : e = (name, v) := text_injective heq
  obtain ⟨before, after, rfl⟩ := List.append_of_mem he
  have hnodup := h.nodup hn
  rw [List.map_append, List.map_cons, List.nodup_append] at hnodup
  apply text?_last
  rintro e' he' rfl
  exact (List.nodup_cons.mp hnodup.2.1).1 (List.mem_map.mpr ⟨e', he', rfl⟩)

lemma text?_of_notMem (h : fields.Carry form) (hf : name ∉ form.map (·.name)) : fields.text? name = none := by
  have hname : ∀ e ∈ fields, e.1 ≠ name := by
    rintro e he rfl
    obtain ⟨f, hmem, hfname⟩ := List.mem_map.mp (h.names_perm.mem_iff.mp (List.mem_map_of_mem he))
    exact hf (hfname ▸ List.mem_map_of_mem (List.mem_of_mem_filter hmem))
  have hfind : fields.reverse.find? (·.1 = name) = none := by
    rw [List.find?_eq_none]
    intro e he
    simpa using hname e (List.mem_reverse.mp he)
  rw [text?, hfind]
  rfl

end Carry

end FormFields

namespace FileMetadata

def optionalTexts (m : FileMetadata) : List String :=
  m.collectionId.toList ++ m.bundleId.toList ++
    (m.contentItem.map fun item => [item.datasetId, item.edition, item.version]).getD []

def texts (m : FileMetadata) : List String :=
  [m.path, m.title, m.contentType, m.licence, m.licenceUrl] ++ m.optionalTexts

/-- No text has blanks at its ends, and what may be left out is left out rather than empty. -/
structure Tidy (m : FileMetadata) : Prop where
  trimmed : ∀ s ∈ m.texts, Text.trim s = s
  filled : ∀ s ∈ m.optionalTexts, s ≠ ""

def form (m : FileMetadata) (current total : Nat) : UploadForm where
  path := (some m.path).filter (· ≠ "")
  isPublishable := some m.isPublishable
  collectionId := m.collectionId
  bundleId := m.bundleId
  title := (some m.title).filter (· ≠ "")
  totalSize := some m.sizeInBytes
  contentType := (some m.contentType).filter (· ≠ "")
  licence := (some m.licence).filter (· ≠ "")
  licenceUrl := (some m.licenceUrl).filter (· ≠ "")
  fileName := (some (Text.trim m.fileName)).filter (· ≠ "")
  chunkNumber := some (.ofNat current)
  totalChunks := some (.ofNat total)
  datasetId := m.contentItem.map (·.datasetId)
  edition := m.contentItem.map (·.edition)
  version := m.contentItem.map (·.version)

variable {m : FileMetadata} {current total : Nat}

lemma getD_filter {s t : String} (h : s = "" → t = "") : ((some s).filter (· ≠ "")).getD t = s := by
  rw [Option.filter_some]
  by_cases he : s = ""
  · rw [if_neg (by simpa using he), Option.getD_none, h he, he]
  · rw [if_pos (decide_eq_true he), Option.getD_some]

lemma metadata_form (m : FileMetadata) (current total : Nat) : (m.form current total).metadata = m := by
  obtain ⟨path, isPublishable, collectionId, bundleId, title, size, contentType, licence, licenceUrl, item⟩ := m
  rw [form, UploadForm.metadata]
  simp only [getD_filter (fun _ => rfl), Option.getD_some, UploadForm.contentItem]
  cases item <;> rfl

lemma trim_fileName (h : UploadPath.IsKey m.path.toList) : Text.trim m.fileName = m.fileName := by
  have hblank : ∀ c ∈ m.fileName.toList, Text.isBlank c = false := by
    intro c hc
    rw [fileName, String.toList_ofList, List.mem_reverse] at hc
    obtain ⟨hlow, hhigh⟩ := UploadPath.isKeyChar_range (h c (List.mem_reverse.mp ((List.takeWhile_sublist _).mem hc)))
    exact Text.not_isBlank_of_range hlow hhigh
  rw [Text.trim, Text.trimBy, Text.Trim.both_of_forall_not hblank, String.ofList_toList]

lemma chunk_form (hcheck : (m.form current total).check = .ok ()) (hc : current < UInt32.size) (ht : total < UInt32.size) :
    (m.form current total).chunk = ⟨m.fileName, m.contentType, current, total⟩ := by
  have hkey : UploadPath.IsKey m.path.toList := by
    have hpath := UploadForm.check_eq_ok.mp hcheck .uploadPath (by decide)
    by_cases he : m.path = ""
    · rw [he]
      exact nofun
    · simp only [UploadForm.breaks, form, Option.filter_some, he, ne_eq, not_false_eq_true, decide_true, if_true,
        Option.any_some, Bool.not_eq_eq_eq_not, Bool.not_false] at hpath
      simp only [UploadPath.valid, Bool.and_eq_true] at hpath
      exact List.all_eq_true.mp hpath.1.1.2
  have hname : ((m.form current total).fileName).getD m.fileName = m.fileName := by
    rw [form, trim_fileName hkey, getD_filter id]
  rw [UploadForm.chunk, metadata_form, hname]
  simp only [form, getD_filter (fun _ => rfl), Option.getD_some, UInt32.toNat_ofNat_of_lt' hc,
    UInt32.toNat_ofNat_of_lt' ht]

end FileMetadata

namespace UploadClient

variable {m : FileMetadata} {current total : Nat} {bytes : Bytes} {fields texts : FormFields} {name : String}

lemma nodup_names : ((uploadForm m current total bytes).map (·.name)).Nodup := by
  rw [uploadForm]
  cases m.collectionId <;> cases m.bundleId <;> cases m.contentItem <;> simp [FormField.text]

section

variable (h : fields.Carry (uploadForm m current total bytes))

include h

lemma text?_of_sent {v : String} (hv : Text.trim v = v) (hf : FormField.text name v ∈ uploadForm m current total bytes) :
    fields.text? name = (some v).filter (· ≠ "") := by
  rw [h.text?_of_mem nodup_names hf, hv]

lemma text?_of_number {n : Nat} (hf : FormField.text name (toString n) ∈ uploadForm m current total bytes) :
    fields.text? name = some (toString n) :=
  (h.text?_of_mem nodup_names hf).trans (Text.Decimal.trim_filter_toString n)

lemma text?_of_optional {o : Option String} (hm : m.Tidy) (ho : ∀ v ∈ o, v ∈ m.optionalTexts)
    (hsome : ∀ v ∈ o, FormField.text name v ∈ uploadForm m current total bytes)
    (hnone : o = none → name ∉ (uploadForm m current total bytes).map (·.name)) : fields.text? name = o := by
  cases o with
  | none => exact h.text?_of_notMem (hnone rfl)
  | some v =>
    have hv := ho v rfl
    rw [text?_of_sent h (hm.trimmed v (List.mem_append_right _ hv)) (hsome v rfl), Option.filter_some,
      if_pos (decide_eq_true (hm.filled v hv))]

lemma text?_collectionId (hm : m.Tidy) : fields.text? "collectionId" = m.collectionId := by
  apply text?_of_optional h hm
  · simp +contextual [FileMetadata.optionalTexts]
  · simp +contextual [uploadForm]
  · intro hnone
    cases hb : m.bundleId <;> cases hi : m.contentItem <;> simp [uploadForm, FormField.text, hnone, hb, hi]

lemma text?_bundleId (hm : m.Tidy) : fields.text? "bundleId" = m.bundleId := by
  apply text?_of_optional h hm
  · simp +contextual [FileMetadata.optionalTexts]
  · simp +contextual [uploadForm]
  · intro hnone
    cases hc : m.collectionId <;> cases hi : m.contentItem <;> simp [uploadForm, FormField.text, hnone, hc, hi]

lemma text?_contentItem (hm : m.Tidy) (field : ContentItem → String) (hfield : (name, field) ∈
      [("datasetId", ContentItem.datasetId), ("edition", ContentItem.edition), ("version", ContentItem.version)]) :
    fields.text? name = m.contentItem.map field := by
  simp only [List.mem_cons, Prod.mk.injEq, List.not_mem_nil, or_false] at hfield
  apply text?_of_optional h hm
  · cases hitem : m.contentItem with
    | none => exact nofun
    | some item => rcases hfield with ⟨rfl, rfl⟩ | ⟨rfl, rfl⟩ | ⟨rfl, rfl⟩ <;> simp [FileMetadata.optionalTexts, hitem]
  · cases hitem : m.contentItem with
    | none => exact nofun
    | some item => rcases hfield with ⟨rfl, rfl⟩ | ⟨rfl, rfl⟩ | ⟨rfl, rfl⟩ <;> simp [uploadForm, hitem]
  · intro hnone
    rw [Option.map_eq_none_iff] at hnone
    rcases hfield with ⟨rfl, -⟩ | ⟨rfl, -⟩ | ⟨rfl, -⟩ <;> cases hc : m.collectionId <;> cases hb : m.bundleId <;>
      simp [uploadForm, FormField.text, hnone, hc, hb]

lemma ofFields_of_carry (hm : m.Tidy) (hc : current < UInt32.size) (ht : total < UInt32.size) :
    UploadForm.ofFields fields = .ok (m.form current total) := by
  have htext : ∀ name, ∀ v ∈ m.texts, FormField.text name v ∈ uploadForm m current total bytes →
      fields.text? name = (some v).filter (· ≠ "") := fun _ v hv => text?_of_sent h (hm.trimmed v hv)
  have hpublishable : fields.parsed? readBool? "isPublishable" = .ok (some m.isPublishable) := by
    refine FormFields.parsed?_eq_some.mpr ⟨toString m.isPublishable, ?_, readBool?_eq_some.mpr rfl⟩
    rw [h.text?_of_mem nodup_names (v := toString m.isPublishable) (by simp [uploadForm])]
    cases m.isPublishable <;> decide
  have hsize : fields.parsed? Text.Decimal.readUInt64? "resumableTotalSize" = .ok (some m.sizeInBytes) :=
    FormFields.parsed?_eq_some.mpr ⟨_, text?_of_number h (by simp [uploadForm]), Text.Decimal.readUInt64?_toString _⟩
  have hcurrent : fields.parsed? Text.Decimal.readUInt32? "resumableChunkNumber" = .ok (some (.ofNat current)) :=
    FormFields.parsed?_eq_some.mpr ⟨_, text?_of_number h (by simp [uploadForm]), Text.Decimal.readUInt32?_toString hc⟩
  have htotal : fields.parsed? Text.Decimal.readUInt32? "resumableTotalChunks" = .ok (some (.ofNat total)) :=
    FormFields.parsed?_eq_some.mpr ⟨_, text?_of_number h (by simp [uploadForm]), Text.Decimal.readUInt32?_toString ht⟩
  have hname : fields.text? "resumableFilename" = (some (Text.trim m.fileName)).filter (· ≠ "") :=
    h.text?_of_mem nodup_names (by simp [uploadForm])
  simp only [UploadForm.ofFields, bind_eq_ok]
  refine ⟨_, hpublishable, _, hsize, _, hcurrent, _, htotal, ?_⟩
  rw [htext "path" m.path, htext "title" m.title, htext "resumableType" m.contentType, htext "licence" m.licence,
    htext "licenceUrl" m.licenceUrl, hname, text?_collectionId h hm, text?_bundleId h hm,
    text?_contentItem h hm ContentItem.datasetId (by simp), text?_contentItem h hm ContentItem.edition (by simp),
    text?_contentItem h hm ContentItem.version (by simp)]
  · rfl
  all_goals simp [FileMetadata.texts, uploadForm]

end

/-- Whatever the order of the fields, the metadata comes back, and the chunk with its place, type and file name. -/
theorem form_recovered (hm : m.Tidy) (hle : current ≤ total) (hmax : total ≤ maxChunks)
    (htexts : texts.Carry (uploadForm m current total bytes))
    (hcheck : ∀ form, UploadForm.ofFields texts = .ok form → form.check = .ok ())
    (hfields : fields.Carry (uploadForm m current total bytes)) : ∃ form, UploadForm.ofFields fields = .ok form ∧
      form.check = .ok () ∧ form.metadata = m ∧ form.chunk = ⟨m.fileName, m.contentType, current, total⟩ := by
  have htotal : total < UInt32.size := hmax.trans_lt (by decide)
  have hcurrent : current < UInt32.size := hle.trans_lt htotal
  have hform : (m.form current total).check = .ok () := hcheck _ (ofFields_of_carry htexts hm hcurrent htotal)
  exact ⟨m.form current total, ofFields_of_carry hfields hm hcurrent htotal, hform, FileMetadata.metadata_form ..,
    FileMetadata.chunk_form hform hcurrent htotal⟩

def namelessFile : FileMetadata where
  path := "editions/2024/"
  isPublishable := true
  collectionId := none
  bundleId := some "bundle-7"
  title := "Prices, March 2024"
  sizeInBytes := 5
  contentType := "text/csv"
  licence := "OGL v3"
  licenceUrl := "http://licence.example/ogl"
  contentItem := some ⟨"cpih", "march", "1"⟩

def namelessTexts : FormFields :=
  [("path", "editions/2024/"), ("isPublishable", "true"), ("title", "Prices, March 2024"), ("licence", "OGL v3"),
    ("licenceUrl", "http://licence.example/ogl"), ("resumableType", "text/csv"), ("resumableTotalSize", "5"),
    ("resumableChunkNumber", "1"), ("resumableTotalChunks", "2"), ("resumableFilename", ""),
    ("bundleId", "bundle-7"), ("datasetId", "cpih"), ("edition", "march"), ("version", "1")]

theorem form_recovered_nameless : ∃ form, UploadForm.ofFields namelessTexts.reverse = .ok form ∧
    form.check = .ok () ∧ form.metadata = namelessFile ∧ form.chunk = ⟨"", "text/csv", 1, 2⟩ := by
  have htexts : namelessTexts.Carry (uploadForm namelessFile 1 2 .empty) := .of_eq rfl
  refine form_recovered (m := namelessFile) ⟨?_, ?_⟩ (by decide) (by decide) htexts ?_ ?_
  · decide +kernel
  · decide +kernel
  · rintro form ⟨⟩
    decide +kernel
  · exact (List.reverse_perm _).map _ |>.trans htexts

end UploadClient

end ResumableUpload
