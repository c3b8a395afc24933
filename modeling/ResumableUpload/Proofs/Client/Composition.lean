import ResumableUpload.Proofs.Client.Reach
import ResumableUpload.Proofs.Upload.Arrival

/-! A client that sends a file to a service in memory. The file gets complete with the last chunk, and the slices of
its object open to the content that was sent. -/

namespace ResumableUpload

open Client (Build)
open Http (Outgoing Response)

namespace UploadClient

variable {c : UploadClient} {m : FileMetadata} {content : Bytes}

section

variable {σ : Type} {respond : Outgoing → σ → Option Response × σ} {s s' : σ} {n total : Nat} {bytes : Bytes}

lemma run_sendChunk {q : Outgoing} {response : Response}
    (hq : Http.build "POST" (c.base ++ "/upload-new") c.credentials (.form (uploadForm m n total bytes)) = .ok q)
    (hr : respond q s = (some response, s')) (hok : response.status = 200 ∨ response.status = 201) :
    (c.sendChunk m n total bytes).run respond s = (.ok (), s') := by
  have hdirect : (respond q s).1.bind q.redirected? = none := by
    rw [hr]
    exact Http.redirected?_eq_none (.inl (by omega))
  rw [run_sendChunk_eq hq hdirect, hr]
  simp [Http.received, ofUpload, hok]

lemma run_sendChunks {total : UInt32} {left : Nat} (htotal : total.toNat = c.chunking.count m.sizeInBytes.toNat)
    (hn : n + (left + 1) = total.toNat)
    (hslice : slice? content c.chunking.chunkSize.toNat m.sizeInBytes.toNat n = some bytes)
    (hchunk : (c.sendChunk m (n + 1) total.toNat bytes).run respond s = (.ok (), s')) :
    (c.sendChunks m content total (left + 1) (c.chunking.stop m.sizeInBytes.toNat n)).run respond s =
      (c.sendChunks m content total left (c.chunking.stop m.sizeInBytes.toNat (n + 1))).run respond s' := by
  rw [sendChunks_succ htotal hn, hslice]
  refine (Dialogue.run_bind respond _ _ s).trans ?_
  rw [hchunk]

end

namespace Reaches

variable {config : Config} {carrier : Http.Carrier} {form : UploadForm} {key : Option EncryptionKey} {n : Nat}
  {t : Moment Rehearsal}

lemma next (h : c.Reaches m content carrier config form) (hs : Sendable key (c.payloads content))
    (hn : n < c.chunking.count content.size) (hf : t.world.faults = .none)
    (ha : t.world.backends.Awaits config.policy key (c.payloads content) form.metadata n)
    (statuses : List (Option Nat)) :
    ∃ status t', (c.sendChunk m (n + 1) (c.chunking.count content.size)
        (content.slice c.chunking.chunkSize.toNat n)).run (carrier.serve (Rehearsal.deployment config)) (t, statuses) =
          (.ok (), t', statuses ++ [some status]) ∧ t'.world.faults = .none ∧
      (n + 1 < c.chunking.count content.size ∧ status = 200 ∧
          t'.world.backends.Awaits config.policy key (c.payloads content) form.metadata (n + 1) ∨
        c.chunking.count content.size = n + 1 ∧ status = 201 ∧
          (t'.world.backends.holding config.policy.keyRoot form.metadata.path).Completed config.policy key
            (c.payloads content) form.metadata) := by
  obtain ⟨_, hadmitted⟩ := h.admitted
  obtain ⟨htotal, hread⟩ := read_form h.few_lt hadmitted
  obtain ⟨url, headers, hbuild, htarget, hdelivers⟩ := h.requests
  have hq := Http.build_payload hbuild (.form (c.chunkForm m content n))
  have huploads := (hdelivers n hn).uploads rfl htarget
  generalize (Outgoing.mk "POST" url headers (.form (c.chunkForm m content n))) = q at hq huploads
  have hbrings := h.brings hn (carrier.request q) htotal
  have hform := hread (n + 1) (content.slice c.chunking.chunkSize.toNat n) (Nat.le_add_left 1 n) hn
  rcases ha.next hs hbrings rfl with ⟨hlt, holding, hleaves, hawaits⟩ | ⟨heq, holding, hleaves, hcompleted⟩
  · obtain ⟨t', hserve, hf', rfl⟩ := carrier.serve_upload huploads hform hf hleaves statuses
    refine ⟨200, t', run_sendChunk hq hserve (.inl (h.answers _)), hf', .inl ⟨length_payloads ▸ hlt, rfl, hawaits⟩⟩
  · obtain ⟨t', hserve, hf', rfl⟩ := carrier.serve_upload huploads hform hf hleaves statuses
    refine ⟨201, t', run_sendChunk hq hserve (.inr (h.answers _)), hf', .inr ⟨length_payloads ▸ heq, rfl, hcompleted⟩⟩

lemma run (h : c.Reaches m content carrier config form) (hs : Sendable key (c.payloads content))
    {total : UInt32} (htotal : total.toNat = c.chunking.count m.sizeInBytes.toNat)
    {left : Nat} (hleft : n + (left + 1) = total.toNat) (hf : t.world.faults = .none)
    (ha : t.world.backends.Awaits config.policy key (c.payloads content) form.metadata n)
    (statuses : List (Option Nat)) :
    ∃ t', (c.sendChunks m content total (left + 1) (c.chunking.stop m.sizeInBytes.toNat n)).run
        (carrier.serve (Rehearsal.deployment config)) (t, statuses) =
          (.ok (), t', statuses ++ (List.replicate left (some 200) ++ [some 201])) ∧
      (t'.world.backends.holding config.policy.keyRoot form.metadata.path).Completed config.policy key
        (c.payloads content) form.metadata := by
  have hcount : total.toNat = c.chunking.count content.size := by rw [htotal, h.size]
  -- the backends await the next chunk, and how many chunks are left tells what becomes of it
  induction left generalizing n t statuses with
  | zero =>
    obtain ⟨status, t', hchunk, -, hends⟩ := h.next hs (by omega) hf ha statuses
    obtain ⟨-, rfl, hcompleted⟩ := hends.resolve_left fun hmore => by omega
    refine ⟨t', ?_, hcompleted⟩
    rw [run_sendChunks htotal hleft (h.slice_eq (by omega)) (hcount ▸ hchunk)]
    rfl
  | succ left ih =>
    obtain ⟨status, t', hchunk, hf', hends⟩ := h.next hs (by omega) hf ha statuses
    obtain ⟨-, rfl, hawaits⟩ := hends.resolve_right fun hlast => by omega
    obtain ⟨t'', hrest, hcompleted⟩ := ih (by omega) hf' hawaits (statuses ++ [some 200])
    refine ⟨t'', ?_, hcompleted⟩
    rw [run_sendChunks htotal hleft (h.slice_eq (by omega)) (hcount ▸ hchunk), hrest, List.append_assoc]
    rfl

end Reaches

end UploadClient

def openSlices (key : Option EncryptionKey) (size : Nat) (stored : Bytes) : Except StorageError Bytes :=
  Bytes.concat <$> (List.range (stored.size ⌈/⌉ size)).mapM fun i => openPart key (i + 1) (stored.slice size i)

lemma size_of_openPart {key : Option EncryptionKey} {n : Nat} {body payload : Bytes}
    (h : openPart key n body = .ok payload) : payload.size = body.size := by
  cases key with
  | none => exact congrArg _ (Except.ok.inj h).symm
  | some k => exact Cipher.size_of_decryptPart h

lemma mapM_eq_ok {ε α β : Type} {f : α → Except ε β} {l : List α} {l' : List β}
    (h : List.Forall₂ (fun a b => f a = .ok b) l l') : l.mapM f = .ok l' := by
  induction h with
  | nil => rfl
  | cons hf _ ih =>
    rw [List.mapM_cons, hf, ih]
    rfl

theorem StoredObject.MadeOf.openSlices {o : StoredObject} {key : Option EncryptionKey} {content : Bytes} {size : Nat}
    (h : o.MadeOf key (content.cut size)) (hpos : 0 < size) :
    o.content.size = content.size ∧ ResumableUpload.openSlices key size o.content = .ok content := by
  obtain ⟨bodies, hcontent, hlength, hopen⟩ := h
  have hsizes : bodies.map ByteArray.size = (content.cut size).map ByteArray.size := by
    apply List.ext_getElem (by simpa using hlength)
    intro i hb hp
    rw [List.length_map] at hb hp
    rw [List.getElem_map, List.getElem_map]
    exact (size_of_openPart (hopen i hb hp)).symm
  have hsize : o.content.size = content.size := by
    rw [hcontent, Bytes.size_concat, hsizes, ← Bytes.size_concat, Bytes.concat_cut hpos]
  have heven : Bytes.Even size bodies := by
    intro i hb
    have hp : i < (content.cut size).length := hlength ▸ hb
    rw [← size_of_openPart (hopen i hb hp), hlength]
    exact Bytes.even_cut hpos i hp
  refine ⟨hsize, ?_⟩
  have hmap : (List.range (o.content.size ⌈/⌉ size)).mapM (fun i => openPart key (i + 1) (o.content.slice size i)) =
      .ok (content.cut size) := by
    apply mapM_eq_ok
    rw [List.forall₂_iff_get, hsize]
    refine ⟨List.length_range.trans Bytes.length_cut.symm, fun i hi hp => ?_⟩
    have hb : i < bodies.length := hlength ▸ hp
    rw [List.get_eq_getElem, List.getElem_range, hcontent, heven.slice_concat hb]
    exact hopen i hb hp
  rw [ResumableUpload.openSlices, hmap]
  exact congrArg Except.ok (Bytes.concat_cut hpos)

/-- The file is complete, and its object opens to the content, slice by slice. -/
structure Holding.Keeps (policy : UploadPolicy) (m : FileMetadata) (content : Bytes) (size : Nat) (h : Holding) :
    Prop where
  parts : h.parts = ∅
  object : ∃ key o etag, h.Opens policy key ∧ h.object = some o ∧ o.content.size = content.size ∧
    openSlices key size o.content = .ok content ∧ h.record = some ⟨m, .uploaded, some etag⟩ ∧ ETag.Strips o.etag etag

namespace UploadClient

variable {c : UploadClient} {m : FileMetadata} {content : Bytes} {config : Config} {carrier : Http.Carrier}
  {form : UploadForm}

/-- A file that is not too large gets complete with the last of its chunks. -/
theorem Reaches.upload_completes (h : c.Reaches m content carrier config form) (hcontent : 0 < content.size) {b : Build}
    {limit : UInt64} (hlimit : c.chunking.maxFileSize? b = .ok limit) (hfits : m.sizeInBytes ≤ limit)
    (keys : List (Except String EncryptionKey))
    (hkeys : ∀ x ∈ keys, ∃ k, x = .ok k ∧ k.bytes.length = Keys.freshSize) : ∃ x t, c.upload b m content = .ok x ∧
      x.run (carrier.serve (Rehearsal.deployment config)) (Rehearsal.start keys .none, []) =
        (.ok (), t, List.replicate (c.chunking.count content.size - 1) (some 200) ++ [some 201]) ∧
      (t.world.backends.holding config.policy.keyRoot form.metadata.path).Keeps config.policy form.metadata content
        c.chunking.chunkSize.toNat := by
  obtain ⟨key, hprovides, hbody⟩ := Backends.exists_provides hkeys config.policy
  obtain ⟨left, hleft⟩ : ∃ left, c.chunking.count content.size = left + 1 := by
    apply Nat.exists_eq_add_one.mpr
    rwa [Client.Chunking.count, Bytes.lt_ceilDiv_iff h.pos, Nat.zero_mul]
  have hstart := Backends.awaits_start hprovides (c.payloads content) form.metadata
  have hsome : m.sizeInBytes ≠ 0 := by
    intro hzero
    have hs := h.size
    rw [hzero] at hs
    exact absurd hcontent (Nat.not_lt.mpr hs.ge)
  obtain ⟨total, htotal, hupload⟩ := exists_upload_eq hlimit hfits hsome content
  have htotal' : total.toNat = left + 1 := by rw [htotal, h.size, hleft]
  obtain ⟨t, hrun, hopens, hparts, o, hobject, hmade, hrecord⟩ :=
    h.run (h.sendable hbody) htotal (n := 0) (t := Rehearsal.start keys .none) (by rw [htotal', Nat.zero_add]) rfl hstart []
  obtain ⟨hsize, hopen⟩ := hmade.openSlices h.pos
  refine ⟨_, t, hupload, ?_, hparts, key, o, _, hopens, hobject, hsize, hopen, hrecord, ETag.unquote_strips o.etag⟩
  rw [htotal', hleft]
  exact hrun

theorem zeros_completes : (least {}).Reaches (.least 5242881) zeros .plain {} (.least 5242881 2) ∧ ∃ x t,
    (least {}).upload .checked (.least 5242881) zeros = .ok x ∧
    x.run (Http.Carrier.plain.serve (Rehearsal.deployment {})) (Rehearsal.start [] .none, []) =
      (.ok (), t, [some 200, some 201]) ∧
    (t.world.backends.holding (some "secret/shared/psk") "a").Keeps ⟨some "secret/shared/psk", .part⟩ (.least 5242881)
      zeros minChunkSize := by
  have hpos : 0 < zeros.size := by
    rw [size_zeros]
    exact Nat.succ_pos _
  have hlimit : (least {}).chunking.maxFileSize? .checked = .ok 52428800000 := by decide
  obtain ⟨x, t, hupload, hrun, hkeeps⟩ := reaches_zeros.upload_completes hpos hlimit (by decide) [] nofun
  rw [count_zeros] at hrun
  rw [chunkSize_least] at hkeeps
  exact ⟨reaches_zeros, x, t, hupload, hrun, hkeeps⟩

/-- The product of chunk size and number is beyond 64 bits, and however the program was built, no file of one chunk gets
through. -/
theorem small_file_refused : ¬ ∃ b : Build, ∀ (c : UploadClient) (m : FileMetadata) (content : Bytes)
    (carrier : Http.Carrier) (config : Config) (form : UploadForm), c.Reaches m content carrier config form →
      0 < content.size → c.chunking.count content.size ≤ c.chunking.maxChunks.toNat →
        ∃ x t statuses, c.upload b m content = .ok x ∧
          x.run (carrier.serve (Rehearsal.deployment config)) (Rehearsal.start [] .none, []) =
            (.ok (), t, statuses) := by
  rintro ⟨b, h⟩
  have hcount : wide.count hello.size ≤ wide.maxChunks.toNat := count_hello ▸ (by decide)
  obtain ⟨x, t, statuses, hupload, hrun⟩ := h (least wide) (.least 5) hello .plain {} _ reaches_hello (by decide) hcount
  cases b with
  | checked => cases hupload
  | unchecked =>
    cases hupload
    cases congrArg Prod.fst hrun

end UploadClient

end ResumableUpload
