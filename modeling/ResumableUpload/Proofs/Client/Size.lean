import Mathlib.Algebra.BigOperators.Group.Finset.Basic
import ResumableUpload.Proofs.Client.Reach

/-! What the size of a file decides: whether it is sent at all, and how it is cut into chunks. -/

namespace ResumableUpload

open Client (Build ClientError Panic)
open Http (Outgoing Response)

namespace Client.Chunking

variable {c : Chunking} {size : UInt64} {total current : UInt32} {n : ℕ}

structure Whole (c : Chunking) (size : UInt64) (total current : UInt32) : Prop where
  offset : (c.offset current).toNat = (current.toNat - 1) * c.chunkSize.toNat
  inside : c.offset current < size
  nonempty : 1 ≤ c.length size current
  bounded : c.length size current ≤ c.chunkSize
  full : current < total → c.length size current = c.chunkSize

/-- The chunks of a file are counted without loss, and fit together. -/
structure Exact (c : Chunking) (size : UInt64) (total : UInt32) : Prop where
  positive : 0 < c.chunkSize
  counted : c.totalChunks? size = some total
  ceiling : total.toNat = size.toNat ⌈/⌉ c.chunkSize.toNat
  bounds : 1 ≤ total ∧ total ≤ c.maxChunks
  whole : ∀ current, 1 ≤ current → current ≤ total → c.Whole size total current
  sum : ∑ i ∈ Finset.range total.toNat, (c.length size (.ofNat (i + 1))).toNat = size.toNat

lemma toNat_length_of_lt (hcurrent : current.toNat = n + 1) (hlt : n + 1 < c.count size.toNat) :
    (c.length size current).toNat = c.chunkSize.toNat := by
  have hstart := (lt_count_iff (chunkSize_pos (Nat.zero_lt_of_lt hlt))).mp (Nat.lt_of_succ_lt hlt)
  have hend := (lt_count_iff (chunkSize_pos (Nat.zero_lt_of_lt hlt))).mp hlt
  rw [toNat_length hcurrent hstart, Nat.min_eq_left]
  rw [Nat.add_mul, Nat.one_mul] at hend
  omega

lemma whole_of_le (htotal : total.toNat = c.count size.toNat) (hone : 1 ≤ current) (hle : current ≤ total) :
    c.Whole size total current := by
  rw [UInt32.le_iff_toNat_le] at hone hle
  obtain ⟨n, hcurrent⟩ : ∃ n, current.toNat = n + 1 := Nat.exists_eq_add_of_le' hone
  have hn : n < c.count size.toNat := by omega
  have hpos := chunkSize_pos (Nat.zero_lt_of_lt hn)
  have hlt := (lt_count_iff hpos).mp hn
  have hoffset := toNat_offset hcurrent hlt
  have hlength := toNat_length hcurrent hlt
  refine ⟨?_, ?_, ?_, ?_, fun hnext => ?_⟩
  · rw [hoffset, hcurrent, Nat.add_sub_cancel]
  · rwa [UInt64.lt_iff_toNat_lt, hoffset]
  · rw [UInt64.le_iff_toNat_le, hlength]
    exact Nat.le_min.mpr ⟨hpos, Nat.sub_pos_of_lt hlt⟩
  · rw [UInt64.le_iff_toNat_le, hlength]
    exact Nat.min_le_left _ _
  · rw [UInt32.lt_iff_toNat_lt, hcurrent, htotal] at hnext
    exact UInt64.toNat_inj.mp (toNat_length_of_lt hcurrent hnext)

lemma sum_length (hcount : c.count size.toNat < UInt32.size) (hn : n ≤ c.count size.toNat) :
    ∑ i ∈ Finset.range n, (c.length size (.ofNat (i + 1))).toNat = c.stop size.toNat n := by
  induction n with
  | zero => rw [Finset.sum_range_zero, stop_zero]
  | succ n ih =>
    have hcurrent : (UInt32.ofNat (n + 1)).toNat = n + 1 := UInt32.toNat_ofNat_of_lt' (hn.trans_lt hcount)
    rw [Finset.sum_range_succ, ih (Nat.le_of_succ_le hn), stop_add_length hcurrent hn]

lemma stop_count (hpos : 0 < c.chunkSize.toNat) : c.stop size.toNat (c.count size.toNat) = size.toNat := by
  rw [stop, Nat.mul_comm]
  exact Nat.min_eq_right ((ceilDiv_le_iff_le_mul hpos).mp (Nat.le_refl _))

lemma exists_exact (hfits : size ≤ c.maxFileSize) (hsize : size ≠ 0) : ∃ total, c.Exact size total := by
  have hcount := count_pos hfits hsize
  have hpos := chunkSize_pos hcount
  have htotal : (UInt32.ofNat (c.count size.toNat)).toNat = c.count size.toNat :=
    UInt32.toNat_ofNat_of_lt' (count_lt hfits hcount)
  refine ⟨.ofNat (c.count size.toNat), hpos, totalChunks?_eq hpos, htotal, ⟨?_, ?_⟩,
    fun _ => whole_of_le htotal, ?_⟩
  · rw [UInt32.le_iff_toNat_le, htotal]
    exact hcount
  · rw [UInt32.le_iff_toNat_le, htotal]
    exact count_le_maxChunks hfits hcount
  · rw [htotal, sum_length (count_lt hfits hcount) (Nat.le_refl _), stop_count hpos]

lemma maxFileSize_lt_iff : c.maxFileSize < size ↔
    c.capacity < size.toNat ∨ UInt64.size ≤ c.capacity ∧ c.capacity % UInt64.size < size.toNat := by
  have hsize : size.toNat < UInt64.size := size.toNat_lt
  rw [UInt64.lt_iff_toNat_lt, toNat_maxFileSize]
  rcases Nat.lt_or_ge c.capacity UInt64.size with hlt | hge
  · rw [Nat.mod_eq_of_lt hlt]
    omega
  · omega

end Client.Chunking

namespace UploadClient

variable {σ : Type} {respond : Outgoing → σ → Option Response × σ} {s : σ} {c : UploadClient} {b : Build}
  {m : FileMetadata} {content bytes : Bytes} {number count left position : ℕ} {total : UInt32}

def outcome (c : UploadClient) (b : Build) (m : FileMetadata) (content : Bytes)
    (respond : Outgoing → σ → Option Response × σ) (s : σ) : Except Panic (Except ClientError Unit) :=
  (c.upload b m content).map fun x => (x.run respond s).1

inductive OfSize : Except ClientError Unit → Prop
  | large (size limit : UInt64) : OfSize (.error (.fileTooLarge size limit))
  | empty : OfSize (.error .emptyFile)

/-- An upload does not get past the comparison of the size: the largest size cannot be computed, or the size fails. -/
inductive Stops : Except Panic (Except ClientError Unit) → Prop
  | overflow : Stops (.error .multiplication)
  | size {result : Except ClientError Unit} (h : OfSize result) : Stops (.ok result)

lemma not_ofSize_sendChunk : ¬ OfSize ((c.sendChunk m number count bytes).run respond s).1 := by
  rw [sendChunk, Dialogue.run_map]
  generalize ((Http.send _ _ _ _).run respond s).1 = received
  cases received with
  | error e => rintro ⟨⟩
  | ok r =>
    rw [ofUpload]
    split <;> rintro ⟨⟩

lemma not_ofSize_sendChunks : ¬ OfSize ((c.sendChunks m content total left position).run respond s).1 := by
  -- a chunk that is sent fails for other reasons, so only what is left over could fail for its size
  induction left generalizing position s with
  | zero => rintro ⟨⟩
  | succ left ih =>
    rw [sendChunks]
    split
    · rintro ⟨⟩
    · next bytes _ =>
      have hchunk : ¬ OfSize ((c.sendChunk m (total - .ofNat left).toNat total.toNat bytes).run respond s).1 :=
        not_ofSize_sendChunk
      change ¬ OfSize (Dialogue.run respond (.bind _ _) s).1
      rw [Dialogue.run_bind]
      split
      · next he => exact he ▸ hchunk
      · exact ih

lemma outcome_cases (c : UploadClient) (b : Build) (m : FileMetadata) (content : Bytes)
    (respond : Outgoing → σ → Option Response × σ) (s : σ) :
    (b = .checked ∧ UInt64.size ≤ c.chunking.capacity) ∧ c.outcome b m content respond s = .error .multiplication ∨
    ¬ (b = .checked ∧ UInt64.size ≤ c.chunking.capacity) ∧
      (m.sizeInBytes = 0 ∧ c.outcome b m content respond s = .ok (.error .emptyFile) ∨
      c.chunking.maxFileSize < m.sizeInBytes ∧
        c.outcome b m content respond s = .ok (.error (.fileTooLarge m.sizeInBytes c.chunking.maxFileSize)) ∨
      (m.sizeInBytes ≠ 0 ∧ m.sizeInBytes ≤ c.chunking.maxFileSize) ∧
        ∃ result, c.outcome b m content respond s = .ok result ∧ ¬ OfSize result) := by
  rcases upload_cases c b m content with ⟨hover, hupload⟩ | ⟨hfree, hcases⟩
  · refine .inl ⟨hover, ?_⟩
    rw [outcome, hupload]
    rfl
  refine .inr ⟨hfree, ?_⟩
  rw [outcome]
  rcases hcases with ⟨hzero, hupload⟩ | ⟨hlarge, hupload⟩ | ⟨hsizes, total, -, hupload⟩ <;> rw [hupload]
  · exact .inl ⟨hzero, rfl⟩
  · exact .inr (.inl ⟨hlarge, rfl⟩)
  · exact .inr (.inr ⟨hsizes, _, rfl, not_ofSize_sendChunks⟩)

/-- The arithmetic of an upload that gets past the comparison of the size loses nothing. -/
theorem upload_exact (h : ¬ Stops (c.outcome b m content respond s)) : ∃ total, c.chunking.Exact m.sizeInBytes total := by
  rcases outcome_cases c b m content respond s with
    ⟨-, hout⟩ | ⟨-, ⟨-, hout⟩ | ⟨-, hout⟩ | ⟨⟨hne, hfits⟩, -⟩⟩
  · rw [hout] at h
    exact absurd .overflow h
  · rw [hout] at h
    exact absurd (.size .empty) h
  · rw [hout] at h
    exact absurd (.size (.large _ _)) h
  · exact Client.Chunking.exists_exact hfits hne

theorem hello_exact : ¬ Stops ((least ⟨2, 3⟩).outcome .unchecked (.least 5) hello (fun _ _ => (none, ())) ()) ∧
    ∃ total, (least ⟨2, 3⟩).chunking.Exact (FileMetadata.least 5).sizeInBytes total ∧ total = 3 := by
  have h : ¬ Stops ((least ⟨2, 3⟩).outcome .unchecked (.least 5) hello (fun _ _ => (none, ())) ()) := by
    have hlimit : (least ⟨2, 3⟩).chunking.maxFileSize? .unchecked = .ok 6 := by decide
    obtain ⟨total, -, hupload⟩ := exists_upload_eq (m := .least 5) hlimit (by decide) (by decide) hello
    rw [outcome, hupload]
    rintro (_ | ⟨hsize⟩)
    exact not_ofSize_sendChunks hsize
  obtain ⟨total, hexact⟩ := upload_exact h
  exact ⟨h, total, hexact, Option.some.inj (hexact.counted.symm.trans (by decide))⟩

/-- With a check of its arithmetic a program stops where the capacity is beyond 64 bits. A file is refused as too large
if it does not fit, and besides that, without the check, if it is larger than what 64 bits leave of such a capacity. -/
theorem upload_tooLarge_iff (respond : Outgoing → σ → Option Response × σ) (s : σ) (c : UploadClient) (b : Build)
    (m : FileMetadata) (content : Bytes) :
    (∀ p, c.outcome b m content respond s = .error p ↔
      p = .multiplication ∧ b = .checked ∧ UInt64.size ≤ c.chunking.capacity) ∧
    ((∃ size limit, c.outcome b m content respond s = .ok (.error (.fileTooLarge size limit))) ↔
      c.chunking.capacity < m.sizeInBytes.toNat ∨
        b = .unchecked ∧ UInt64.size ≤ c.chunking.capacity ∧
          c.chunking.capacity % UInt64.size < m.sizeInBytes.toNat) := by
  have hsize : m.sizeInBytes.toNat < UInt64.size := m.sizeInBytes.toNat_lt
  rcases outcome_cases c b m content respond s with ⟨⟨hb, hover⟩, hout⟩ | ⟨hfree, hcases⟩
  · rw [hout]
    refine ⟨fun p => ⟨fun he => ⟨(Except.error.inj he).symm, hb, hover⟩, fun hp => hp.1 ▸ rfl⟩, iff_of_false nofun ?_⟩
    rintro (hlarge | ⟨hb', -⟩)
    · omega
    · cases hb.symm.trans hb'
  · have hunchecked : UInt64.size ≤ c.chunking.capacity → b = .unchecked := by
      intro hover
      cases b with
      | checked => exact absurd ⟨rfl, hover⟩ hfree
      | unchecked => rfl
    have hlarge : c.chunking.maxFileSize < m.sizeInBytes ↔ c.chunking.capacity < m.sizeInBytes.toNat ∨
        b = .unchecked ∧ UInt64.size ≤ c.chunking.capacity ∧
          c.chunking.capacity % UInt64.size < m.sizeInBytes.toNat := by
      rw [Client.Chunking.maxFileSize_lt_iff]
      exact or_congr_right ⟨fun h => ⟨hunchecked h.1, h⟩, fun h => h.2⟩
    rw [← hlarge]
    rcases hcases with ⟨hzero, hout⟩ | ⟨hlt, hout⟩ | ⟨⟨-, hfits⟩, result, hout, hnot⟩ <;> rw [hout]
    · refine ⟨fun p => iff_of_false nofun fun hp => hfree hp.2, iff_of_false nofun ?_⟩
      rw [hzero]
      exact UInt64.not_lt_zero
    · exact ⟨fun p => iff_of_false nofun fun hp => hfree hp.2, iff_of_true ⟨_, _, rfl⟩ hlt⟩
    · refine ⟨fun p => iff_of_false nofun fun hp => hfree hp.2, iff_of_false ?_ (UInt64.not_lt.mpr hfits)⟩
      rintro ⟨size, limit, he⟩
      obtain rfl := Except.ok.inj he
      exact hnot (.large _ _)

theorem roomy_file_refused : ¬ ∃ b : Build, ∀ (c : UploadClient) (m : FileMetadata) (content : Bytes),
    m.sizeInBytes.toNat ≤ c.chunking.capacity → ∃ result, c.outcome b m content (fun _ _ => (none, ())) () = .ok result ∧
      ∀ size limit, result ≠ .error (.fileTooLarge size limit) := by
  rintro ⟨b, h⟩
  obtain ⟨result, hout, hresult⟩ := h (least ⟨0x8000000000000000, 2⟩) (.least 5) hello (by decide)
  cases b with
  | checked => cases hout
  | unchecked =>
    cases hout
    exact hresult 5 0 rfl

end UploadClient

end ResumableUpload
