import ResumableUpload.Proofs.Form.Description
import ResumableUpload.Proofs.Form.Parts
import ResumableUpload.Proofs.Form.Pattern

/-! Which forms the service admits, and what it takes from them. -/

namespace ResumableUpload

open FormDecoding (fileField)
open Http (FormData FormPart)

namespace Http.FormData

variable (data : FormData)

structure Admissible : Prop where
  whole : data.Whole
  file : (data.parts.filter (·.name = fileField)).length = 1
  path : ∃ path, data.Gives "path" path ∧ UploadPath.Allowed path
  isPublishable : ∃ b : Bool, data.Gives "isPublishable" (toString b)
  size : ∃ s n, data.Gives "resumableTotalSize" s ∧ Text.Decimal.Spells s n ∧ 1 ≤ n ∧ n < UInt64.size
  contentType : ∃ s, data.Gives "resumableType" s ∧ s.toList ∈ MediaTypeName.pattern
  licence : ∃ s, data.Gives "licence" s
  licenceUrl : ∃ s, data.Gives "licenceUrl" s
  position : ∃ s number t total, data.Gives "resumableChunkNumber" s ∧ Text.Decimal.Spells s number ∧
    data.Gives "resumableTotalChunks" t ∧ Text.Decimal.Spells t total ∧ 1 ≤ number ∧ number ≤ total ∧ total ≤ maxChunks
  owner : ¬ ((∃ s, data.Gives "collectionId" s) ∧ ∃ s, data.Gives "bundleId" s)

/-- What is taken from a form. Only a title and a name of the file may be filled in. -/
structure Describes (m : FileMetadata) (c : Chunk) (payload : Bytes) : Prop where
  path : data.Gives "path" m.path
  isPublishable : data.Gives "isPublishable" (toString m.isPublishable)
  size : ∃ s, data.Gives "resumableTotalSize" s ∧ Text.Decimal.Spells s m.sizeInBytes.toNat
  contentType : data.Gives "resumableType" m.contentType
  declaredType : data.Gives "resumableType" c.declaredType
  licence : data.Gives "licence" m.licence
  licenceUrl : data.Gives "licenceUrl" m.licenceUrl
  current : ∃ s, data.Gives "resumableChunkNumber" s ∧ Text.Decimal.Spells s c.current
  total : ∃ s, data.Gives "resumableTotalChunks" s ∧ Text.Decimal.Spells s c.total
  collectionId : ∀ s, m.collectionId = some s ↔ data.Gives "collectionId" s
  bundleId : ∀ s, m.bundleId = some s ↔ data.Gives "bundleId" s
  contentItem : ∀ item, m.contentItem = some item ↔ data.Gives "datasetId" item.datasetId ∧
    data.Gives "edition" item.edition ∧ data.Gives "version" item.version
  title : ∀ s, data.Gives "title" s ↔ m.title = s ∧ s ≠ ""
  fileName : data.Gives "resumableFilename" c.fileName ∨
    (∀ s, ¬ data.Gives "resumableFilename" s) ∧ c.fileName = m.fileName
  payload : ∃ p ∈ data.parts, p.name = fileField ∧ p.content = some payload

end Http.FormData

namespace UploadForm

variable {form : UploadForm}

structure Sound (form : UploadForm) : Prop where
  path : ∃ path, form.path = some path ∧ UploadPath.Allowed path
  isPublishable : ∃ b, form.isPublishable = some b
  size : ∃ n, form.totalSize = some n ∧ 1 ≤ n.toNat
  contentType : ∃ s, form.contentType = some s ∧ s.toList ∈ MediaTypeName.pattern
  licence : ∃ s, form.licence = some s
  licenceUrl : ∃ s, form.licenceUrl = some s
  position : ∃ number total, form.chunkNumber = some number ∧ form.totalChunks = some total ∧
    1 ≤ number.toNat ∧ number.toNat ≤ total.toNat ∧ total.toNat ≤ maxChunks
  owner : form.collectionId = none ∨ form.bundleId = none

lemma exists_of_required {α : Type} {o : Option α} (hr : o.isNone = false) : ∃ a, o = some a := by
  cases o with
  | none => cases hr
  | some a => exact ⟨a, rfl⟩

lemma exists_of_kept {α : Type} {o : Option α} {p : α → Bool} (hr : o.isNone = false) (hp : o.any p = false) :
    ∃ a, o = some a ∧ p a = false := by
  obtain ⟨a, rfl⟩ := exists_of_required hr
  exact ⟨a, rfl, hp⟩

lemma isChunkCount_iff {n : UInt32} : isChunkCount n = true ↔ 1 ≤ n.toNat ∧ n.toNat ≤ maxChunks := by
  rw [isChunkCount, Bool.and_eq_true, decide_eq_true_eq, decide_eq_true_eq]

lemma sound_of_check (h : form.check = .ok ()) : form.Sound := by
  rw [check_eq_ok] at h
  obtain ⟨path, hpath, hvalid⟩ := exists_of_kept (h (.required .path) (by decide)) (h .uploadPath (by decide))
  obtain ⟨size, hsize, hpos⟩ := exists_of_kept (h (.required .totalSize) (by decide)) (h .sizeRange (by decide))
  obtain ⟨type, htype, hpattern⟩ := exists_of_kept (h (.required .contentType) (by decide)) (h .mediaType (by decide))
  obtain ⟨number, hnumber, hcount⟩ :=
    exists_of_kept (h (.required .chunkNumber) (by decide)) (h .chunkNumberRange (by decide))
  obtain ⟨total, htotal, hmax⟩ :=
    exists_of_kept (h (.required .totalChunks) (by decide)) (h .totalChunksRange (by decide))
  have howner := h .collectionOrBundle (by decide)
  have hwithin := h .numberWithinTotal (by decide)
  rw [Bool.not_eq_false'] at hvalid hpattern hcount hmax
  simp only [breaks, hnumber, htotal, Option.any_some, decide_eq_false_iff_not, UInt32.lt_iff_toNat_lt] at hwithin
  rw [decide_eq_false_iff_not, UInt64.lt_iff_toNat_lt] at hpos
  exact {
    path := ⟨path, hpath, UploadPath.valid_iff.mp hvalid⟩
    isPublishable := exists_of_required (h (.required .isPublishable) (by decide))
    size := ⟨size, hsize, Nat.le_of_not_lt hpos⟩
    contentType := ⟨type, htype, MediaTypeName.valid_iff_mem_pattern.mp hpattern⟩
    licence := exists_of_required (h (.required .licence) (by decide))
    licenceUrl := exists_of_required (h (.required .licenceUrl) (by decide))
    position := ⟨number, total, hnumber, htotal, (isChunkCount_iff.mp hcount).1, Nat.le_of_not_lt hwithin,
      (isChunkCount_iff.mp hmax).2⟩
    owner := by
      cases hc : form.collectionId with
      | none => exact .inl rfl
      | some c =>
        right
        simpa [breaks, hc] using howner }

lemma Sound.check (h : form.Sound) : form.check = .ok () := by
  obtain ⟨⟨path, hpath, hallowed⟩, ⟨b, hb⟩, ⟨size, hsize, hpos⟩, ⟨type, htype, hpattern⟩, ⟨licence, hlicence⟩,
    ⟨url, hurl⟩, ⟨number, total, hnumber, htotal, hone, hle, hmax⟩, howner⟩ := h
  rw [check_eq_ok]
  intro rule _
  cases rule with
  | required field => cases field <;> simp [breaks, missing, *]
  | uploadPath => simp [breaks, hpath, UploadPath.valid_iff.mpr hallowed]
  | mediaType => simp [breaks, htype, MediaTypeName.valid_iff_mem_pattern.mpr hpattern]
  | sizeRange =>
    simp only [breaks, hsize, Option.any_some, decide_eq_false_iff_not, UInt64.lt_iff_toNat_lt]
    exact Nat.not_lt.mpr hpos
  | chunkNumberRange => simp [breaks, hnumber, isChunkCount_iff.mpr ⟨hone, hle.trans hmax⟩]
  | totalChunksRange => simp [breaks, htotal, isChunkCount_iff.mpr ⟨hone.trans hle, hmax⟩]
  | collectionOrBundle => rcases howner with hc | hb <;> simp [breaks, *]
  | numberWithinTotal =>
    simp only [breaks, hnumber, htotal, Option.any_some, decide_eq_false_iff_not, UInt32.lt_iff_toNat_lt]
    exact Nat.not_lt.mpr hle

lemma Sound.inRange (h : form.Sound) : form.chunk.InRange := by
  obtain ⟨number, total, hnumber, htotal, hone, hle, hmax⟩ := h.position
  rw [chunk, hnumber, htotal]
  exact ⟨hone, hle, hmax⟩

end UploadForm

namespace FormDecoding

variable {data : FormData} {form : UploadForm} {payload : Bytes} {name : String}

lemma read_eq_ok_iff : read data = .ok (form, payload) ↔ data.Whole ∧ data.parts.filterMap file? = [payload] ∧
    UploadForm.ofFields (texts data) = .ok form ∧ form.Sound := by
  simp only [read, ofFormData, bind_eq_ok, Prod.exists]
  constructor
  · rintro ⟨fields, file, hcollect, found, hfound, _, hcheck, hfile⟩
    obtain ⟨hclosed, hcontents, rfl, hfiles⟩ := collect_eq_ok.mp hcollect
    cases file with
    | none => cases hfile
    | some bytes =>
      cases hfile
      exact ⟨⟨hclosed, hcontents⟩, hfiles, hfound, UploadForm.sound_of_check hcheck⟩
  · rintro ⟨hw, hfiles, hform, hsound⟩
    refine ⟨texts data, some payload, ?_, form, hform, (), hsound.check, rfl⟩
    exact collect_eq_ok.mpr ⟨hw.closed, hw.contents, rfl, hfiles⟩

structure Takes (form : UploadForm) (data : FormData) : Prop where
  path : ∀ s, form.path = some s ↔ data.Gives "path" s
  isPublishable : ∀ b, form.isPublishable = some b ↔ data.Gives "isPublishable" (toString b)
  collectionId : ∀ s, form.collectionId = some s ↔ data.Gives "collectionId" s
  bundleId : ∀ s, form.bundleId = some s ↔ data.Gives "bundleId" s
  title : ∀ s, form.title = some s ↔ data.Gives "title" s
  totalSize : ∀ n, form.totalSize = some n ↔ ∃ s, data.Gives "resumableTotalSize" s ∧ Text.Decimal.Spells s n.toNat
  contentType : ∀ s, form.contentType = some s ↔ data.Gives "resumableType" s
  licence : ∀ s, form.licence = some s ↔ data.Gives "licence" s
  licenceUrl : ∀ s, form.licenceUrl = some s ↔ data.Gives "licenceUrl" s
  fileName : ∀ s, form.fileName = some s ↔ data.Gives "resumableFilename" s
  chunkNumber : ∀ n, form.chunkNumber = some n ↔ ∃ s, data.Gives "resumableChunkNumber" s ∧ Text.Decimal.Spells s n.toNat
  totalChunks : ∀ n, form.totalChunks = some n ↔ ∃ s, data.Gives "resumableTotalChunks" s ∧ Text.Decimal.Spells s n.toNat
  datasetId : ∀ s, form.datasetId = some s ↔ data.Gives "datasetId" s
  edition : ∀ s, form.edition = some s ↔ data.Gives "edition" s
  version : ∀ s, form.version = some s ↔ data.Gives "version" s

section

variable {α : Type} {read : String → Option α} {a : α} {s : String}

lemma parsed?_of_gives (hw : data.Whole) (hn : name ≠ fileField) (hs : data.Gives name s) (hread : read s = some a) :
    (texts data).parsed? read name = .ok (some a) := by
  apply FormFields.parsed?_eq_some.mpr
  exact ⟨s, (gives_iff hw hn).mp hs, hread⟩

lemma parsed_iff {o : Option α} {P : String → α → Prop} (hw : data.Whole) (hn : name ≠ fileField)
    (hread : ∀ s a, read s = some a ↔ P s a) (h : (texts data).parsed? read name = .ok o) (a : α) :
    o = some a ↔ ∃ s, data.Gives name s ∧ P s a := by
  constructor
  · rintro rfl
    obtain ⟨s, hs, ha⟩ := FormFields.parsed?_eq_some.mp h
    exact ⟨s, (gives_iff hw hn).mpr hs, (hread s a).mp ha⟩
  · rintro ⟨s, hs, ha⟩
    have hparsed := parsed?_of_gives hw hn hs ((hread s a).mpr ha)
    exact Except.ok.inj (h.symm.trans hparsed)

end

lemma takes_of_ofFields (hw : data.Whole) (h : UploadForm.ofFields (texts data) = .ok form) : Takes form data := by
  have htext : ∀ name, name ≠ fileField → ∀ s, (texts data).text? name = some s ↔ data.Gives name s :=
    fun _ hn _ => (gives_iff hw hn).symm
  have hlong : ∀ s n, Text.Decimal.readUInt64? s = some n ↔ Text.Decimal.Spells s n.toNat :=
    fun _ _ => Text.Decimal.readUInt64?_eq_some
  have hshort : ∀ s n, Text.Decimal.readUInt32? s = some n ↔ Text.Decimal.Spells s n.toNat :=
    fun _ _ => Text.Decimal.readUInt32?_eq_some
  simp only [UploadForm.ofFields, bind_eq_ok] at h
  obtain ⟨b, hpublishable, _, hsize, _, hnumber, _, htotal, hform⟩ := h
  cases hform
  exact {
    path := htext _ (by decide)
    isPublishable := by
      intro b'
      rw [parsed_iff hw (by decide) (fun _ _ => readBool?_eq_some) hpublishable]
      exact exists_eq_right
    collectionId := htext _ (by decide)
    bundleId := htext _ (by decide)
    title := htext _ (by decide)
    totalSize := parsed_iff hw (by decide) hlong hsize
    contentType := htext _ (by decide)
    licence := htext _ (by decide)
    licenceUrl := htext _ (by decide)
    fileName := htext _ (by decide)
    chunkNumber := parsed_iff hw (by decide) hshort hnumber
    totalChunks := parsed_iff hw (by decide) hshort htotal
    datasetId := htext _ (by decide)
    edition := htext _ (by decide)
    version := htext _ (by decide) }

lemma exists_takes (h : data.Admissible) : ∃ form, UploadForm.ofFields (texts data) = .ok form ∧ Takes form data := by
  have hw := h.whole
  obtain ⟨b, hb⟩ := h.isPublishable
  obtain ⟨s, n, hs, hn, -, hlt⟩ := h.size
  obtain ⟨t, number, u, total, ht, hnumber, hu, htotal, -, hle, hmax⟩ := h.position
  have hlt' : total < UInt32.size := hmax.trans_lt (by decide)
  rw [← UInt64.toNat_ofNat_of_lt' hlt] at hn
  rw [← UInt32.toNat_ofNat_of_lt' hlt'] at htotal
  rw [← UInt32.toNat_ofNat_of_lt' (hle.trans_lt hlt')] at hnumber
  have hpublishable := parsed?_of_gives hw (by decide) hb (readBool?_eq_some.mpr rfl)
  have hsize := parsed?_of_gives hw (by decide) hs (Text.Decimal.readUInt64?_eq_some.mpr hn)
  have hcurrent := parsed?_of_gives hw (by decide) ht (Text.Decimal.readUInt32?_eq_some.mpr hnumber)
  have hchunks := parsed?_of_gives hw (by decide) hu (Text.Decimal.readUInt32?_eq_some.mpr htotal)
  obtain ⟨form, hform⟩ : ∃ form, UploadForm.ofFields (texts data) = .ok form := by
    simp only [UploadForm.ofFields, bind_eq_ok]
    exact ⟨_, _, hpublishable, _, hsize, _, hcurrent, _, hchunks, rfl⟩
  exact ⟨form, hform, takes_of_ofFields hw hform⟩

namespace Takes

lemma sound (h : Takes form data) (hdata : data.Admissible) : form.Sound := by
  obtain ⟨s, n, hs, hn, hpos, hlt⟩ := hdata.size
  obtain ⟨t, number, u, total, ht, hnumber, hu, htotal, hone, hle, hmax⟩ := hdata.position
  have hlt' : total < UInt32.size := hmax.trans_lt (by decide)
  have hn' : (UInt64.ofNat n).toNat = n := UInt64.toNat_ofNat_of_lt' hlt
  have htotal' : (UInt32.ofNat total).toNat = total := UInt32.toNat_ofNat_of_lt' hlt'
  have hnumber' : (UInt32.ofNat number).toNat = number := UInt32.toNat_ofNat_of_lt' (hle.trans_lt hlt')
  exact {
    path := hdata.path.imp fun s hs => ⟨(h.path s).mpr hs.1, hs.2⟩
    isPublishable := hdata.isPublishable.imp fun b hb => (h.isPublishable b).mpr hb
    size := ⟨.ofNat n, (h.totalSize _).mpr ⟨s, hs, hn'.symm ▸ hn⟩, hn'.symm ▸ hpos⟩
    contentType := hdata.contentType.imp fun s hs => ⟨(h.contentType s).mpr hs.1, hs.2⟩
    licence := hdata.licence.imp fun s hs => (h.licence s).mpr hs
    licenceUrl := hdata.licenceUrl.imp fun s hs => (h.licenceUrl s).mpr hs
    position := by
      refine ⟨.ofNat number, .ofNat total, ?_, ?_, ?_⟩
      · exact (h.chunkNumber _).mpr ⟨t, ht, hnumber'.symm ▸ hnumber⟩
      · exact (h.totalChunks _).mpr ⟨u, hu, htotal'.symm ▸ htotal⟩
      · rw [hnumber', htotal']
        exact ⟨hone, hle, hmax⟩
    owner := by
      cases hc : form.collectionId with
      | none => exact .inl rfl
      | some c =>
        right
        apply Option.eq_none_iff_forall_ne_some.mpr
        intro b hb
        apply hdata.owner
        exact ⟨⟨c, (h.collectionId c).mp hc⟩, ⟨b, (h.bundleId b).mp hb⟩⟩ }

lemma admissible (h : Takes form data) (hw : data.Whole) (hfiles : data.parts.filterMap file? = [payload])
    (hsound : form.Sound) : data.Admissible := by
  obtain ⟨n, hn, hpos⟩ := hsound.size
  obtain ⟨s, hs, hspells⟩ := (h.totalSize n).mp hn
  obtain ⟨number, total, hnumber, htotal, hplace⟩ := hsound.position
  obtain ⟨t, ht, hcurrent⟩ := (h.chunkNumber number).mp hnumber
  obtain ⟨u, hu, hchunks⟩ := (h.totalChunks total).mp htotal
  exact {
    whole := hw
    file := by rw [← length_files hw.contents, hfiles, List.length_singleton]
    path := hsound.path.imp fun s hs => ⟨(h.path s).mp hs.1, hs.2⟩
    isPublishable := hsound.isPublishable.imp fun b hb => (h.isPublishable b).mp hb
    size := ⟨s, n.toNat, hs, hspells, hpos, n.toNat_lt⟩
    contentType := hsound.contentType.imp fun s hs => ⟨(h.contentType s).mp hs.1, hs.2⟩
    licence := hsound.licence.imp fun s hs => (h.licence s).mp hs
    licenceUrl := hsound.licenceUrl.imp fun s hs => (h.licenceUrl s).mp hs
    position := ⟨t, number.toNat, u, total.toNat, ht, hcurrent, hu, hchunks, hplace⟩
    owner := by
      rintro ⟨⟨c, hc⟩, ⟨b, hb⟩⟩
      rw [← h.collectionId] at hc
      rw [← h.bundleId] at hb
      rcases hsound.owner with hnone | hnone
      · cases hnone.symm.trans hc
      · cases hnone.symm.trans hb }

lemma describes (h : Takes form data) (hfiles : data.parts.filterMap file? = [payload]) (hsound : form.Sound) :
    data.Describes form.metadata form.chunk payload := by
  obtain ⟨path, hpath, -⟩ := hsound.path
  obtain ⟨b, hb⟩ := hsound.isPublishable
  obtain ⟨n, hn, -⟩ := hsound.size
  obtain ⟨type, htype, -⟩ := hsound.contentType
  obtain ⟨licence, hlicence⟩ := hsound.licence
  obtain ⟨url, hurl⟩ := hsound.licenceUrl
  obtain ⟨number, total, hnumber, htotal, -⟩ := hsound.position
  simp only [UploadForm.chunk, UploadForm.metadata, hpath, hb, hn, htype, hlicence, hurl, hnumber, htotal, Option.getD_some]
  exact {
    path := (h.path path).mp hpath
    isPublishable := (h.isPublishable b).mp hb
    size := (h.totalSize n).mp hn
    contentType := (h.contentType type).mp htype
    declaredType := (h.contentType type).mp htype
    licence := (h.licence licence).mp hlicence
    licenceUrl := (h.licenceUrl url).mp hurl
    current := (h.chunkNumber number).mp hnumber
    total := (h.totalChunks total).mp htotal
    collectionId := h.collectionId
    bundleId := h.bundleId
    contentItem := by
      rintro ⟨datasetId, edition, version⟩
      rw [← h.datasetId, ← h.edition, ← h.version, UploadForm.contentItem]
      cases form.datasetId <;> cases form.edition <;> cases form.version <;> simp
    title := by
      intro s
      constructor
      · intro hs
        rw [(h.title s).mpr hs]
        exact ⟨rfl, hs.1⟩
      · rintro ⟨hs, hne⟩
        rw [← h.title]
        cases ht : form.title with
        | none =>
          rw [ht] at hs
          exact absurd hs.symm hne
        | some t =>
          rw [ht] at hs
          exact congrArg some hs
    fileName := by
      cases hname : form.fileName with
      | none =>
        right
        refine ⟨fun s hs => ?_, rfl⟩
        cases hname.symm.trans ((h.fileName s).mpr hs)
      | some s => exact .inl ((h.fileName s).mp hname)
    payload := by
      have hmem : payload ∈ data.parts.filterMap file? := by simp [hfiles]
      obtain ⟨p, hp, hpayload⟩ := List.mem_filterMap.mp hmem
      rw [file?] at hpayload
      split at hpayload
      · next hname => exact ⟨p, hp, hname, hpayload⟩
      · cases hpayload }

end Takes

theorem exists_read_iff : (∃ form payload, read data = .ok (form, payload)) ↔ data.Admissible := by
  constructor
  · rintro ⟨form, payload, hread⟩
    obtain ⟨hw, hfiles, hform, hsound⟩ := read_eq_ok_iff.mp hread
    exact (takes_of_ofFields hw hform).admissible hw hfiles hsound
  · intro h
    obtain ⟨payload, hpayload⟩ : ∃ payload, data.parts.filterMap file? = [payload] := by
      rw [← List.length_eq_one_iff, length_files h.whole.contents]
      exact h.file
    obtain ⟨form, hform, htakes⟩ := exists_takes h
    exact ⟨form, payload, read_eq_ok_iff.mpr ⟨h.whole, hpayload, hform, htakes.sound h⟩⟩

theorem describes_of_read (h : read data = .ok (form, payload)) : data.Describes form.metadata form.chunk payload := by
  obtain ⟨hw, hfiles, hform, hsound⟩ := read_eq_ok_iff.mp h
  exact (takes_of_ofFields hw hform).describes hfiles hsound

end FormDecoding

end ResumableUpload
