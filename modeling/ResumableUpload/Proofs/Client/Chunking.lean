import ResumableUpload.Client.Chunking
import ResumableUpload.Proofs.Bytes

/-! How a client cuts a file into chunks. Nothing wraps around for a size that is at most the largest one. -/

namespace ResumableUpload.Client.Chunking

variable {c : Chunking} {size : UInt64} {current : UInt32} {index : Nat}

def count (c : Chunking) (size : Nat) : Nat := size ⌈/⌉ c.chunkSize.toNat

lemma ceilDiv_eq (size : Nat) {n : Nat} (hpos : 0 < n) :
    size ⌈/⌉ n = size / n + if size % n = 0 then 0 else 1 := by
  have hlt := Nat.mod_lt size hpos
  have hsize := Nat.div_add_mod size n
  rw [Nat.ceilDiv_eq_add_pred_div]
  generalize size / n = quotient at hsize ⊢
  split
  · next hzero =>
    rw [← hsize, hzero, Nat.add_zero, Nat.add_sub_assoc hpos, Nat.mul_add_div hpos]
    rw [Nat.div_eq_of_lt (Nat.sub_lt hpos Nat.one_pos)]
  · next hne =>
    have hsum : n * quotient + size % n + n - 1 = n * (quotient + 1) + (size % n - 1) := by
      rw [Nat.mul_succ]
      omega
    rw [← hsize, hsum, Nat.mul_add_div hpos, Nat.div_eq_of_lt (by omega)]

lemma totalChunks?_eq {size : UInt64} (hpos : 0 < c.chunkSize.toNat) :
    c.totalChunks? size = some (.ofNat (c.count size.toNat)) := by
  have hne : c.chunkSize ≠ 0 := by
    intro he
    rw [he] at hpos
    exact absurd hpos (Nat.lt_irrefl 0)
  rw [totalChunks?, if_neg hne, count, ceilDiv_eq _ hpos]

lemma chunkSize_pos (h : 0 < c.count size.toNat) : 0 < c.chunkSize.toNat := by
  rw [Nat.pos_iff_ne_zero]
  intro hzero
  rw [count, hzero, ceilDiv_zero] at h
  exact absurd h (Nat.lt_irrefl 0)

lemma count_pos (hfits : size ≤ c.maxFileSize) (hsize : size ≠ 0) : 0 < c.count size.toNat := by
  have hpos : 0 < c.chunkSize.toNat := by
    rw [Nat.pos_iff_ne_zero]
    intro hzero
    rw [maxFileSize, (UInt64.toNat_inj (b := 0)).mp hzero, UInt64.zero_mul] at hfits
    exact hsize (UInt64.le_zero_iff.mp hfits)
  rw [count, Bytes.lt_ceilDiv_iff hpos, Nat.zero_mul, Nat.pos_iff_ne_zero]
  exact fun hzero => hsize (UInt64.toNat_inj.mp hzero)

def capacity (c : Chunking) : Nat := c.chunkSize.toNat * c.maxChunks.toNat

lemma eq_maxFileSize {b : Build} {limit : UInt64} (h : c.maxFileSize? b = .ok limit) : limit = c.maxFileSize := by
  rw [maxFileSize?] at h
  split at h <;> cases h
  rfl

lemma maxFileSize?_cases (c : Chunking) (b : Build) :
    (b = .checked ∧ UInt64.size ≤ c.capacity) ∧ c.maxFileSize? b = .error .multiplication ∨
    ¬ (b = .checked ∧ UInt64.size ≤ c.capacity) ∧ c.maxFileSize? b = .ok c.maxFileSize := by
  by_cases h : b = .checked ∧ UInt64.size ≤ c.capacity
  · exact .inl ⟨h, if_pos h⟩
  · exact .inr ⟨h, if_neg h⟩

lemma toNat_maxFileSize : c.maxFileSize.toNat = c.capacity % UInt64.size := by
  rw [maxFileSize, UInt64.toNat_mul, UInt32.toNat_toUInt64]
  rfl

lemma maxFileSize_le : c.maxFileSize.toNat ≤ c.capacity := by
  rw [toNat_maxFileSize]
  exact Nat.mod_le _ _

lemma count_le_maxChunks (hfits : size ≤ c.maxFileSize) (hpos : 0 < c.count size.toNat) :
    c.count size.toNat ≤ c.maxChunks.toNat := by
  rw [count, ceilDiv_le_iff_le_mul (chunkSize_pos hpos)]
  exact (UInt64.le_iff_toNat_le.mp hfits).trans maxFileSize_le

lemma count_lt (hfits : size ≤ c.maxFileSize) (hpos : 0 < c.count size.toNat) : c.count size.toNat < UInt32.size :=
  (count_le_maxChunks hfits hpos).trans_lt c.maxChunks.toNat_lt

lemma lt_count_iff (hpos : 0 < c.chunkSize.toNat) : index < c.count size.toNat ↔ index * c.chunkSize.toNat < size.toNat :=
  Bytes.lt_ceilDiv_iff hpos

lemma toNat_offset (hcurrent : current.toNat = index + 1) (hlt : index * c.chunkSize.toNat < size.toNat) :
    (c.offset current).toNat = index * c.chunkSize.toNat := by
  have hindex : (current - 1).toNat = index := by
    have hone : (1 : UInt32).toNat ≤ current.toNat := by rw [hcurrent]; exact Nat.le_add_left 1 index
    rw [UInt32.toNat_sub_of_le _ _ (UInt32.le_iff_toNat_le.mpr hone), hcurrent]
    rfl
  rw [offset, UInt64.toNat_mul, UInt32.toNat_toUInt64, hindex]
  exact Nat.mod_eq_of_lt (hlt.trans size.toNat_lt)

lemma toNat_min (a b : UInt64) : (min a b).toNat = min a.toNat b.toNat := by
  change (if a ≤ b then a else b).toNat = _
  split
  · next hle => exact (Nat.min_eq_left (UInt64.le_iff_toNat_le.mp hle)).symm
  · next hlt => exact (Nat.min_eq_right (UInt64.lt_iff_toNat_lt.mp (UInt64.not_le.mp hlt)).le).symm

lemma toNat_length (hcurrent : current.toNat = index + 1) (hlt : index * c.chunkSize.toNat < size.toNat) :
    (c.length size current).toNat = min c.chunkSize.toNat (size.toNat - index * c.chunkSize.toNat) := by
  have hoffset := toNat_offset hcurrent hlt
  have hrest : (size - c.offset current).toNat = size.toNat - index * c.chunkSize.toNat := by
    rw [UInt64.toNat_sub_of_le, hoffset]
    rw [UInt64.le_iff_toNat_le, hoffset]
    exact hlt.le
  rw [length, toNat_min, hrest]

def stop (c : Chunking) (size n : Nat) : Nat := min (n * c.chunkSize.toNat) size

lemma stop_zero (size : Nat) : c.stop size 0 = 0 := by rw [stop, Nat.zero_mul, Nat.zero_min]

lemma stop_of_lt (h : index < c.count size.toNat) : c.stop size.toNat index = index * c.chunkSize.toNat :=
  Nat.min_eq_left ((lt_count_iff (chunkSize_pos (Nat.zero_lt_of_lt h))).mp h).le

lemma add_min (h : index < c.count size.toNat) :
    index * c.chunkSize.toNat + min c.chunkSize.toNat (size.toNat - index * c.chunkSize.toNat) =
      c.stop size.toNat (index + 1) := by
  have hlt := (lt_count_iff (chunkSize_pos (Nat.zero_lt_of_lt h))).mp h
  rw [← Nat.add_min_add_left, Nat.add_sub_cancel' hlt.le, stop, Nat.add_mul, Nat.one_mul]

lemma stop_add_length (hcurrent : current.toNat = index + 1) (h : index < c.count size.toNat) :
    c.stop size.toNat index + (c.length size current).toNat = c.stop size.toNat (index + 1) := by
  have hlt := (lt_count_iff (chunkSize_pos (Nat.zero_lt_of_lt h))).mp h
  rw [stop_of_lt h, toNat_length hcurrent hlt, add_min h]

end ResumableUpload.Client.Chunking
