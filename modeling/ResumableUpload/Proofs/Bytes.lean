import ResumableUpload.Proofs.Store.Parts
import Mathlib.Algebra.Order.Floor.Div

/-! Byte strings: where a pattern stands first, and how they are cut into slices of one size. -/

namespace ResumableUpload.Bytes

section

variable {b p : Bytes} {i j : Nat}

lemma drop_octets (h : i < b.size) : (octets b).drop i = b[i] :: (octets b).drop (i + 1) := by
  rw [List.drop_eq_getElem_cons (by rwa [length_octets])]
  rfl

lemma agreesFrom_iff : agreesFrom b p i j = true ↔ (octets p).drop j <+: (octets b).drop (i + j) := by
  induction hn : p.size - j generalizing j with
  | zero =>
    have hj : ¬ j < p.size := by omega
    rw [agreesFrom, dif_neg hj, List.drop_eq_nil_of_le (by rw [length_octets]; omega)]
    simp
  | succ n ih =>
    have hj : j < p.size := by omega
    rw [agreesFrom, dif_pos hj, drop_octets hj]
    split
    · next hi =>
      rw [drop_octets hi, List.cons_prefix_cons, Bool.and_eq_true, ih (by omega), beq_iff_eq, Nat.add_assoc]
      exact and_congr_left' eq_comm
    · next hi =>
      have hend : (octets b).drop (i + j) = [] := List.drop_eq_nil_of_le (by rw [length_octets]; omega)
      simp [hend]

lemma hasAt_iff : hasAt b p i = true ↔ octets p <+: (octets b).drop i := agreesFrom_iff

lemma findFrom_eq (hle : i ≤ j) (hj : hasAt b p j = true) (hno : ∀ k, i ≤ k → k < j → hasAt b p k = false) :
    findFrom b p i = some j := by
  induction hn : j - i generalizing i with
  | zero =>
    obtain rfl : i = j := by omega
    rw [findFrom, if_pos hj]
  | succ n ih =>
    have hi : hasAt b p i = false := hno i (Nat.le_refl i) (by omega)
    have hlt : i < b.size := by
      by_contra hge
      have hend : ∀ k, i ≤ k → (octets b).drop k = [] :=
        fun k hk => List.drop_eq_nil_of_le (by rw [length_octets]; omega)
      rw [hasAt_iff, hend j hle] at hj
      rw [Bool.eq_false_iff, Ne, hasAt_iff, hend i (Nat.le_refl i)] at hi
      exact hi hj
    rw [findFrom, if_neg (Bool.eq_false_iff.mp hi), if_pos hlt]
    exact ih (by omega) (fun k hk => hno k (by omega)) (by omega)

lemma not_hasAt_of_findFrom (h : findFrom b p i = some j) {k : Nat} (hi : i ≤ k) (hk : k < j) :
    hasAt b p k = false := by
  induction hn : b.size - i generalizing i with
  | zero =>
    rw [findFrom] at h
    split at h
    · cases h
      omega
    · rw [if_neg (by omega)] at h
      cases h
  | succ n ih =>
    rw [findFrom] at h
    split at h
    · cases h
      omega
    · next hat =>
      rw [if_pos (by omega)] at h
      rcases Nat.lt_or_eq_of_le hi with hi | rfl
      · exact ih h hi (by omega)
      · exact Bool.eq_false_iff.mpr hat

lemma findFrom_of_first {front rest : List UInt8} (h : (octets b).drop i = front ++ (octets p ++ rest))
    (hno : ∀ t < front.length, ¬ octets p <+: (front ++ octets p).drop t) :
    findFrom b p i = some (i + front.length) := by
  have hbehind : ∀ t ≤ front.length, (octets b).drop (i + t) = (front ++ octets p).drop t ++ rest := by
    intro t ht
    rw [← List.drop_drop, h, ← List.append_assoc, List.drop_append_of_le_length]
    rw [List.length_append]
    exact Nat.le_add_right_of_le ht
  apply findFrom_eq (Nat.le_add_right i _)
  · rw [hasAt_iff, hbehind _ (Nat.le_refl _), List.drop_left]
    exact List.prefix_append _ _
  · intro k hle hlt
    obtain ⟨t, rfl⟩ := Nat.exists_eq_add_of_le hle
    have ht : t < front.length := Nat.lt_of_add_lt_add_left hlt
    rw [Bool.eq_false_iff, Ne, hasAt_iff, hbehind t (Nat.le_of_lt ht)]
    intro hp
    apply hno t ht
    apply List.prefix_of_prefix_length_le hp (List.prefix_append _ _)
    rw [List.length_drop, List.length_append]
    omega

lemma findFrom_of_absent {first : UInt8} {more front rest : List UInt8} (hp : octets p = first :: more)
    (h : (octets b).drop i = front ++ (octets p ++ rest)) (hno : first ∉ front) :
    findFrom b p i = some (i + front.length) := by
  apply findFrom_of_first h
  intro t ht hprefix
  have ht' : t < (front ++ octets p).length := by
    rw [List.length_append]
    exact Nat.lt_add_right _ ht
  rw [List.drop_eq_getElem_cons ht', List.getElem_append_left ht, hp] at hprefix
  have hfirst := (List.cons_prefix_cons.mp hprefix).1
  exact hno (hfirst ▸ List.getElem_mem ht)

end

def slice (b : Bytes) (size i : Nat) : Bytes := b.extract (i * size) ((i + 1) * size)

def slices (b : Bytes) (size n : Nat) : List Bytes := (List.range n).map (b.slice size)

section

variable {b : Bytes} {size n i : Nat} {l : List Bytes}

@[simp] lemma length_slices : (b.slices size n).length = n := by simp [slices]

lemma getElem_slices (h : i < (b.slices size n).length) : (b.slices size n)[i] = b.slice size i := by
  simp [slices]

lemma octets_slice : octets (b.slice size i) = ((octets b).drop (i * size)).take size := by
  rw [slice, octets_extract, Nat.add_mul, Nat.one_mul, Nat.add_sub_cancel_left]

lemma size_slice : (b.slice size i).size = min size (b.size - i * size) := by
  rw [← length_octets, octets_slice, List.length_take, List.length_drop, length_octets]

lemma octets_concat (l : List Bytes) : octets (concat l) = l.flatMap octets := by
  have hfold : ∀ (l : List Bytes) (b : Bytes), octets (l.foldl (· ++ ·) b) = octets b ++ l.flatMap octets := by
    intro l
    induction l with
    | nil => simp
    | cons x l ih => simp [ih]
  exact hfold l _

theorem concat_slices (h : b.size ≤ n * size) : concat (b.slices size n) = b := by
  have htake : ∀ n, (List.range n).flatMap (fun i => octets (b.slice size i)) = (octets b).take (n * size) := by
    intro n
    induction n with
    | zero => simp
    | succ n ih =>
      rw [List.range_succ, List.flatMap_append, ih, List.flatMap_singleton, octets_slice, Nat.add_mul, Nat.one_mul,
        List.take_add]
  apply octets_injective
  rw [octets_concat, slices, List.flatMap_map, htake]
  exact List.take_of_length_le (by rwa [length_octets])

def Even (size : Nat) (l : List Bytes) : Prop :=
  ∀ (i : Nat) (h : i < l.length), l[i].size ≤ size ∧ (i + 1 < l.length → l[i].size = size)

lemma Even.slice_concat (h : Even size l) (hi : i < l.length) : (concat l).slice size i = l[i] := by
  apply octets_injective
  rw [octets_slice, octets_concat]
  induction l generalizing i with
  | nil => cases hi
  | cons x l ih =>
    obtain ⟨hle, heq⟩ := h 0 (Nat.zero_lt_succ _)
    have hrest : Even size l := fun i hi => by simpa using h (i + 1) (Nat.succ_lt_succ hi)
    rw [List.flatMap_cons]
    cases i with
    | zero =>
      rw [Nat.zero_mul, List.drop_zero]
      cases l with
      | nil =>
        rw [List.flatMap_nil, List.append_nil]
        exact List.take_of_length_le (by rwa [length_octets])
      | cons y l => exact List.take_left' (by rw [length_octets]; exact heq (by simp))
    | succ i =>
      have hpos : 0 < l.length := Nat.zero_lt_of_lt (Nat.lt_of_succ_lt_succ hi)
      have hx : (octets x).length = size := by
        rw [length_octets]
        exact heq (Nat.succ_lt_succ hpos)
      rw [Nat.add_mul, Nat.one_mul, Nat.add_comm, ← List.drop_drop, List.drop_left' hx]
      exact ih hrest (Nat.lt_of_succ_lt_succ hi)

lemma even_slices (h : (n - 1) * size ≤ b.size) : Even size (b.slices size n) := by
  intro i hi
  rw [getElem_slices, size_slice]
  refine ⟨Nat.min_le_left _ _, fun hlt => Nat.min_eq_left ?_⟩
  rw [length_slices] at hlt
  have hle : (i + 1) * size ≤ b.size := le_trans (Nat.mul_le_mul_right size (by omega)) h
  rw [Nat.add_mul, Nat.one_mul] at hle
  omega

lemma size_concat (l : List Bytes) : (concat l).size = (l.map ByteArray.size).sum := by
  rw [← length_octets, octets_concat, List.length_flatMap]
  simp

end

def cut (b : Bytes) (size : Nat) : List Bytes := b.slices size (b.size ⌈/⌉ size)

section

variable {b : Bytes} {size i : Nat}

@[simp] lemma length_cut : (b.cut size).length = b.size ⌈/⌉ size := length_slices

lemma lt_ceilDiv_iff {n : Nat} (hpos : 0 < size) : i < n ⌈/⌉ size ↔ i * size < n := by
  rw [← not_le, ceilDiv_le_iff_le_mul hpos, not_le, Nat.mul_comm]

theorem concat_cut (hpos : 0 < size) : concat (b.cut size) = b := by
  apply concat_slices
  rw [Nat.mul_comm]
  exact le_smul_ceilDiv hpos

lemma even_cut (hpos : 0 < size) : Even size (b.cut size) := by
  apply even_slices
  rcases Nat.eq_zero_or_pos (b.size ⌈/⌉ size) with hzero | hcount
  · rw [hzero, Nat.zero_sub, Nat.zero_mul]
    exact Nat.zero_le _
  · exact ((lt_ceilDiv_iff hpos).mp (Nat.sub_lt hcount Nat.one_pos)).le

end

end ResumableUpload.Bytes
