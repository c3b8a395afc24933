import ResumableUpload.Proofs.Client.Carrier
import ResumableUpload.Proofs.Client.Chunking
import ResumableUpload.Proofs.Dialogue
import ResumableUpload.Proofs.Form.Description
import ResumableUpload.Proofs.Upload.Sending

/-! What it takes for a client to get a file through to a service, and two files of which all of it holds. -/

namespace ResumableUpload

open Client (Build)
open Http (FormField)

namespace UploadClient

variable {c : UploadClient} {m : FileMetadata} {content : Bytes}

def slice? (content : Bytes) (chunkSize size index : Nat) : Option Bytes :=
  let start := index * chunkSize
  let stop := start + min chunkSize (size - start)
  if stop ≤ content.size then some (content.extract start stop) else none

section

variable {total current : UInt32} {index left : Nat}

lemma next?_stop (hcurrent : current.toNat = index + 1) (h : index < c.chunking.count m.sizeInBytes.toNat) :
    next? content (c.chunking.stop m.sizeInBytes.toNat index) (c.chunking.length m.sizeInBytes current).toNat =
      slice? content c.chunking.chunkSize.toNat m.sizeInBytes.toNat index := by
  have hlt := (Client.Chunking.lt_count_iff (Client.Chunking.chunkSize_pos (Nat.zero_lt_of_lt h))).mp h
  rw [next?, slice?, Client.Chunking.stop_of_lt h, Client.Chunking.toNat_length hcurrent hlt]

lemma toNat_current (hsum : index + (left + 1) = total.toNat) : (total - .ofNat left).toNat = index + 1 := by
  have hlt : left < total.toNat := by omega
  have hleft : left < UInt32.size := hlt.trans total.toNat_lt
  rw [UInt32.toNat_sub_of_le, UInt32.toNat_ofNat_of_lt' hleft]
  · omega
  · rw [UInt32.le_iff_toNat_le, UInt32.toNat_ofNat_of_lt' hleft]
    omega

lemma sendChunks_succ (htotal : total.toNat = c.chunking.count m.sizeInBytes.toNat)
    (hsum : index + (left + 1) = total.toNat) :
    c.sendChunks m content total (left + 1) (c.chunking.stop m.sizeInBytes.toNat index) =
      (match slice? content c.chunking.chunkSize.toNat m.sizeInBytes.toNat index with
      | none => .done (.error .contentEnded)
      | some bytes => do
        match ← c.sendChunk m (index + 1) total.toNat bytes with
        | .error e => return .error e
        | .ok () => c.sendChunks m content total left (c.chunking.stop m.sizeInBytes.toNat (index + 1))) := by
  have hcurrent := toNat_current hsum
  have hindex : index < c.chunking.count m.sizeInBytes.toNat := by omega
  rw [← next?_stop hcurrent hindex, ← Client.Chunking.stop_add_length hcurrent hindex, ← hcurrent]
  rfl

lemma exists_upload_eq {b : Build} {limit : UInt64} (hlimit : c.chunking.maxFileSize? b = .ok limit)
    (hfits : m.sizeInBytes ≤ limit) (hsize : m.sizeInBytes ≠ 0) (content : Bytes) :
    ∃ total : UInt32, total.toNat = c.chunking.count m.sizeInBytes.toNat ∧
      c.upload b m content = .ok (c.sendChunks m content total total.toNat (c.chunking.stop m.sizeInBytes.toNat 0)) := by
  have hmax := Client.Chunking.eq_maxFileSize hlimit ▸ hfits
  have hpos := Client.Chunking.count_pos hmax hsize
  refine ⟨_, UInt32.toNat_ofNat_of_lt' (Client.Chunking.count_lt hmax hpos), ?_⟩
  rw [upload, hlimit, Client.Chunking.stop_zero]
  dsimp only [Except.bind]
  rw [if_neg (UInt64.not_lt.mpr hfits), if_neg hsize, Client.Chunking.totalChunks?_eq (Client.Chunking.chunkSize_pos hpos)]

lemma upload_cases (c : UploadClient) (b : Build) (m : FileMetadata) (content : Bytes) :
    (b = .checked ∧ UInt64.size ≤ c.chunking.capacity) ∧ c.upload b m content = .error .multiplication ∨
    ¬ (b = .checked ∧ UInt64.size ≤ c.chunking.capacity) ∧
      (m.sizeInBytes = 0 ∧ c.upload b m content = .ok (.done (.error .emptyFile)) ∨
      c.chunking.maxFileSize < m.sizeInBytes ∧
        c.upload b m content = .ok (.done (.error (.fileTooLarge m.sizeInBytes c.chunking.maxFileSize))) ∨
      (m.sizeInBytes ≠ 0 ∧ m.sizeInBytes ≤ c.chunking.maxFileSize) ∧
        ∃ total : UInt32, total.toNat = c.chunking.count m.sizeInBytes.toNat ∧ c.upload b m content =
          .ok (c.sendChunks m content total total.toNat (c.chunking.stop m.sizeInBytes.toNat 0))) := by
  rcases c.chunking.maxFileSize?_cases b with ⟨hover, hlimit⟩ | ⟨hfree, hlimit⟩
  · refine .inl ⟨hover, ?_⟩
    rw [upload, hlimit]
    rfl
  refine .inr ⟨hfree, ?_⟩
  by_cases hlarge : c.chunking.maxFileSize < m.sizeInBytes
  · refine .inr (.inl ⟨hlarge, ?_⟩)
    rw [upload, hlimit]
    exact if_pos hlarge
  by_cases hzero : m.sizeInBytes = 0
  · refine .inl ⟨hzero, ?_⟩
    rw [upload, hlimit]
    dsimp only [Except.bind]
    rw [if_neg hlarge, if_pos hzero]
  · have hfits := UInt64.not_lt.mp hlarge
    exact .inr (.inr ⟨⟨hzero, hfits⟩, exists_upload_eq hlimit hfits hzero content⟩)

end

lemma run_sendChunk_eq {σ : Type} {n total : Nat} {bytes : Bytes} {q : Http.Outgoing}
    {respond : Http.Outgoing → σ → Option Http.Response × σ} {s : σ}
    (hq : Http.build "POST" (c.base ++ "/upload-new") c.credentials (.form (uploadForm m n total bytes)) = .ok q)
    (h : (respond q s).1.bind q.redirected? = none) :
    (c.sendChunk m n total bytes).run respond s =
      (ofUpload (Http.received q (respond q s).1), (respond q s).2) := by
  rw [sendChunk, Dialogue.run_map, Http.run_send hq h]

lemma slice?_eq {size index : Nat} (h : index * size ≤ content.size) :
    slice? content size content.size index = some (content.slice size index) := by
  have hstop : index * size + min size (content.size - index * size) ≤ content.size := by omega
  rw [slice?, if_pos hstop]
  congr 1
  apply Bytes.octets_injective
  rw [Bytes.octets_extract, Bytes.octets_slice, Nat.add_sub_cancel_left, ← Bytes.length_octets, ← List.length_drop,
    ← List.take_take, List.take_length]

def payloads (c : UploadClient) (content : Bytes) : List Bytes := content.cut c.chunking.chunkSize.toNat

lemma length_payloads : (c.payloads content).length = c.chunking.count content.size := Bytes.length_cut

def chunkForm (c : UploadClient) (m : FileMetadata) (content : Bytes) (n : Nat) : List FormField :=
  uploadForm m (n + 1) (c.chunking.count content.size) (content.slice c.chunking.chunkSize.toNat n)

/-- A client that gets through to a service, with a file whose first form holds the rules of the service. -/
structure Reaches (c : UploadClient) (m : FileMetadata) (content : Bytes) (carrier : Http.Carrier) (config : Config)
    (form : UploadForm) : Prop where
  size : m.sizeInBytes.toNat = content.size
  large : minChunkSize ≤ c.chunking.chunkSize.toNat
  few : c.chunking.count content.size ≤ maxChunks
  admitted : ∃ payload,
    FormDecoding.read ⟨(c.chunkForm m content 0).map FormField.received, true⟩ = .ok (form, payload)
  answers : ∀ reply, (carrier.response reply).status = reply.status
  requests : ∃ url headers,
    Http.build "POST" (c.base ++ "/upload-new") c.credentials .empty = .ok ⟨"POST", url, headers, .empty⟩ ∧
      url.target = "/upload-new" ∧ ∀ n < c.chunking.count content.size, carrier.Delivers config.maxChunkBytes.toNat
        ⟨"POST", url, headers, .form (c.chunkForm m content n)⟩ (c.chunkForm m content n)

namespace Reaches

variable {config : Config} {carrier : Http.Carrier} {form : UploadForm} {key : Option EncryptionKey} {n : Nat}

lemma pos (h : c.Reaches m content carrier config form) : 0 < c.chunking.chunkSize.toNat :=
  Nat.lt_of_lt_of_le (by decide) h.large

lemma few_lt (h : c.Reaches m content carrier config form) : c.chunking.count content.size < UInt32.size :=
  Nat.lt_of_le_of_lt h.few (by decide)

lemma slice_eq (h : c.Reaches m content carrier config form) (hn : n < c.chunking.count content.size) :
    UploadClient.slice? content c.chunking.chunkSize.toNat m.sizeInBytes.toNat n =
      some (content.slice c.chunking.chunkSize.toNat n) := by
  rw [h.size]
  exact slice?_eq ((Bytes.lt_ceilDiv_iff h.pos).mp hn).le

lemma sendable (h : c.Reaches m content carrier config form)
    (hb : ∀ (k : Chunk) (payload : Bytes), ∃ body, k.body payload key = .ok body) :
    Sendable key (c.payloads content) := by
  refine ⟨?_, fun i hi hlast => ?_, hb⟩
  · rw [length_payloads]
    exact h.few
  · have hsize : (c.payloads content)[i].size = c.chunking.chunkSize.toNat := (Bytes.even_cut h.pos i hi).2 hlast
    rw [hsize]
    exact h.large

lemma brings (h : c.Reaches m content carrier config form) (hn : n < c.chunking.count content.size)
    (r : Http.Request) (ht : form.totalChunks = some (.ofNat (c.chunking.count content.size))) :
    (Deployment.described r (form.ofChunk (n + 1)) (content.slice c.chunking.chunkSize.toNat n)).Brings
      form.metadata.path (c.payloads content) n := by
  refine ⟨rfl, ?_, ?_, ?_⟩
  · exact UInt32.toNat_ofNat_of_lt' (Nat.lt_of_le_of_lt hn h.few_lt)
  · rw [length_payloads]
    change (form.totalChunks.getD 0).toNat = _
    rw [ht]
    exact UInt32.toNat_ofNat_of_lt' h.few_lt
  · rw [List.getElem?_eq_some_iff]
    exact ⟨length_payloads.symm ▸ hn, Bytes.getElem_slices _⟩

end Reaches

lemma uploadForm_eq (m : FileMetadata) (n total : Nat) (bytes : Bytes) : uploadForm m n total bytes =
    (uploadForm m n total .empty).dropLast ++ [⟨FormDecoding.fileField, some m.fileName, bytes⟩] := by
  rw [uploadForm, uploadForm, List.dropLast_concat]
  rfl

lemma plain_delivers {n total limit : Nat} {bytes : Bytes} {url : Http.Url} {headers : List (String × String)}
    (h : (uploadForm m n total .empty).all FormField.isPlain = true) (hb : 0x0d ∉ bytes.octets)
    (hsize : (Http.FormData.write "x" (uploadForm m n total .empty)).size + bytes.size ≤ limit) :
    Http.Carrier.plain.Delivers limit ⟨"POST", url, headers, .form (uploadForm m n total bytes)⟩
      (uploadForm m n total bytes) := by
  have hempty := uploadForm_eq m n total .empty
  have hfields := uploadForm_eq m n total bytes
  generalize (uploadForm m n total .empty).dropLast = texts at hempty hfields
  rw [hempty, List.all_append, Bool.and_eq_true, List.all_eq_true] at h
  have hfile : (FormField.mk FormDecoding.fileField (some m.fileName) bytes).isPlain = true := by
    have hplain := List.all_eq_true.mp h.2 _ List.mem_cons_self
    rw [FormField.isPlain, Bool.and_eq_true] at hplain ⊢
    exact ⟨hplain.1, by simpa using hb⟩
  apply Http.Carrier.plain_delivers
  · intro f hf
    rw [hfields] at hf
    rcases List.mem_append.mp hf with hf | hf
    · exact .of_isPlain (h.1 f hf)
    · exact .of_isPlain (List.mem_singleton.mp hf ▸ hfile)
  · apply Nat.le_trans (Nat.le_of_eq ?_) hsize
    have hdisposition : (FormField.mk FormDecoding.fileField (some m.fileName) bytes).disposition =
        (FormField.mk FormDecoding.fileField (some m.fileName) .empty).disposition := rfl
    rw [hfields, hempty, Http.FormData.size_write, Http.FormData.size_write]
    simp only [List.map_append, List.sum_append, List.map_cons, List.map_nil, List.sum_singleton,
      Http.FormData.fieldSize, hdisposition, ByteArray.size_empty]
    omega

def least (chunking : Client.Chunking) : UploadClient := ⟨"http://h", "t", none, chunking⟩

end UploadClient

def Http.Url.least : Url := ⟨"http", some (.ofHost (some (.name "h"))), "/upload-new", none, none⟩

def FileMetadata.least (size : UInt64) : FileMetadata :=
  ⟨"a", true, none, none, "a", size, "text/csv", "l", "u", none⟩

def UploadForm.least (size : UInt64) (total : UInt32) : UploadForm :=
  ⟨some "a", some true, none, none, some "a", some size, some "text/csv", some "l", some "u", some "a", some 1,
    some total, none, none, none⟩

namespace UploadClient

lemma build_least (chunking : Client.Chunking) :
    Http.build "POST" ((least chunking).base ++ "/upload-new") (least chunking).credentials .empty =
      .ok ⟨"POST", .least, (least chunking).credentials, .empty⟩ := by
  apply Http.build_of_read
  · change Http.Url.read? ("http://h" ++ "/upload-new") = _
    decide +kernel
  · decide
  · change ([Http.bearer "t"].all fun h => Http.isHeaderValue h.2) = true
    decide
  · change Http.address .least [Http.bearer "t"] = (.least, [Http.bearer "t"])
    decide +kernel
  · decide

lemma reaches_least (chunking : Client.Chunking) (size : UInt64) (total : UInt32) (content : Bytes)
    (hsize : size.toNat = content.size) (hlarge : minChunkSize ≤ chunking.chunkSize.toNat)
    (hcount : chunking.count content.size = total.toNat) (hfew : total.toNat ≤ maxChunks)
    (hform : UploadForm.ofFields (((uploadForm (.least size) 1 total.toNat .empty).dropLast).map FormField.entry) =
      .ok (.least size total))
    (hcheck : ∀ rule ∈ UploadForm.fieldRules ++ UploadForm.formRules, (UploadForm.least size total).breaks rule = false)
    (htexts : ∀ n < total.toNat, (uploadForm (.least size) (n + 1) total.toNat .empty).all FormField.isPlain = true ∧
      (Http.FormData.write "x" (uploadForm (.least size) (n + 1) total.toNat .empty)).size ≤ minChunkSize)
    (hplain : 0x0d ∉ content.octets) (hslice : ∀ n, (content.slice chunking.chunkSize.toNat n).size ≤ minChunkSize) :
    (least chunking).Reaches (.least size) content .plain {} (.least size total) := by
  have hchunk : ∀ n, (least chunking).chunkForm (.least size) content n =
      uploadForm (.least size) (n + 1) total.toNat (content.slice chunking.chunkSize.toNat n) := by
    intro n
    rw [chunkForm, ← hcount]
    rfl
  have hnames : ∀ f ∈ (uploadForm (.least size) 1 total.toNat .empty).dropLast, f.name ≠ FormDecoding.fileField := by
    change ∀ f ∈ [_, _, _, _, _, _, _, _, _, _], _
    simp [FormField.text, FormDecoding.fileField]
  have hlimit : minChunkSize + minChunkSize ≤ ({} : Config).maxChunkBytes.toNat := by decide
  refine ⟨hsize, hlarge, Nat.le_trans (Nat.le_of_eq hcount) hfew, ⟨content.slice chunking.chunkSize.toNat 0, ?_⟩,
    fun _ => rfl, _, _, build_least chunking, by decide, fun n hn => ?_⟩
  · rw [hchunk, uploadForm_eq, FormDecoding.read_eq_ok hnames]
    exact ⟨hform, UploadForm.check_eq_ok.mpr hcheck, rfl⟩
  · obtain ⟨hclear, htextSize⟩ := htexts n (hcount ▸ hn)
    rw [hchunk]
    apply plain_delivers hclear
    · rw [Bytes.octets_slice]
      exact fun hmem => hplain (List.mem_of_mem_drop (List.mem_of_mem_take hmem))
    · exact Nat.le_trans (Nat.add_le_add htextSize (hslice n)) hlimit

def zeros : Bytes := .ofList (List.replicate (minChunkSize + 1) 0)

lemma size_zeros : zeros.size = minChunkSize + 1 := by
  rw [← Bytes.length_octets, zeros, Bytes.octets_ofList, List.length_replicate]

lemma chunkSize_least : (least {}).chunking.chunkSize.toNat = minChunkSize := by decide

lemma count_zeros : (least {}).chunking.count zeros.size = 2 := by
  rw [size_zeros, Client.Chunking.count, Client.Chunking.ceilDiv_eq _ (by decide)]
  decide

lemma reaches_zeros : (least {}).Reaches (.least 5242881) zeros .plain {} (.least 5242881 2) := by
  apply reaches_least {} 5242881 2 zeros size_zeros.symm (Nat.le_refl _) count_zeros (by decide) rfl
  · decide +kernel
  · intro n hn
    rw [Http.FormData.size_write]
    match n, hn with
    | 0, _ => decide +kernel
    | 1, _ => decide +kernel
  · intro hmem
    exact absurd (List.eq_of_mem_replicate hmem) (by decide)
  · intro n
    rw [Bytes.size_slice]
    exact Nat.min_le_left _ _

def hello : Bytes := ⟨#[0x68, 0x65, 0x6c, 0x6c, 0x6f]⟩

def wide : Client.Chunking := ⟨0x1000000000000000, 16⟩

lemma count_hello : wide.count hello.size = 1 := by
  rw [Client.Chunking.count, Client.Chunking.ceilDiv_eq _ (by decide)]
  rfl

lemma reaches_hello : (least wide).Reaches (.least 5) hello .plain {} (.least 5 1) := by
  apply reaches_least wide 5 1 hello rfl (by decide) count_hello (by decide) rfl
  · decide +kernel
  · intro n hn
    obtain rfl : n = 0 := Nat.lt_one_iff.mp hn
    rw [Http.FormData.size_write]
    decide +kernel
  · decide
  · intro n
    rw [Bytes.size_slice]
    apply Nat.le_trans (Nat.min_le_right _ _)
    exact Nat.le_trans (Nat.sub_le _ _) (by decide)

def helloFields : List FormField := uploadForm (.least 5) 1 1 hello

def helloRequest : Http.Request := Http.Carrier.plain.request ⟨"POST", .least, [], .form helloFields⟩

lemma chunkForm_hello : (least wide).chunkForm (.least 5) hello 0 = helloFields := by
  have hslice : hello.slice wide.chunkSize.toNat 0 = hello := rfl
  change uploadForm (.least 5) 1 (wide.count hello.size) (hello.slice wide.chunkSize.toNat 0) = _
  rw [count_hello, hslice, helloFields]

lemma uploads_hello : helloRequest.Uploads ({} : Config).maxChunkBytes.toNat helloFields := by
  obtain ⟨url, headers, -, htarget, hdelivers⟩ := reaches_hello.requests
  have hfirst := hdelivers 0 (by rw [show (least wide).chunking = wide from rfl, count_hello]; decide)
  rw [chunkForm_hello] at hfirst
  have huploads := hfirst.uploads rfl htarget
  have hsame : Http.Carrier.plain.request ⟨"POST", url, headers, .form helloFields⟩ = helloRequest := by
    rw [helloRequest, Http.Carrier.plain]
    simp only [htarget]
    rfl
  rwa [hsame] at huploads

lemma read_hello : FormDecoding.read ⟨helloFields.map FormField.received, true⟩ = .ok (.least 5 1, hello) := by
  obtain ⟨payload, hread⟩ := reaches_hello.admitted
  rw [chunkForm_hello] at hread
  have hpayload : payload = hello := by
    have hnames : ∀ f ∈ (uploadForm (.least 5) 1 1 .empty).dropLast, f.name ≠ FormDecoding.fileField := by
      change ∀ f ∈ [_, _, _, _, _, _, _, _, _, _], _
      simp [FormField.text, FormDecoding.fileField]
    rw [helloFields, uploadForm_eq] at hread
    exact ((FormDecoding.read_eq_ok hnames).mp hread).2.2
  rw [hread, hpayload]

end UploadClient

end ResumableUpload
