import ResumableUpload.Proofs.Cipher.Feedback
import Mathlib.Data.List.Sort

/-! Under one key no two blocks are enciphered alike: every step of a round can be undone. -/

namespace ResumableUpload.Cipher

open Function (Injective)

lemma xor_self_left (x y : UInt8) : x ^^^ (x ^^^ y) = y := by rw [← UInt8.xor_assoc, UInt8.xor_self, UInt8.zero_xor]

lemma xor_left_comm (x y z : UInt8) : x ^^^ (y ^^^ z) = y ^^^ (x ^^^ z) := by ac_rfl

lemma Column.map_injective {f : UInt8 → UInt8} (hf : Injective f) : Injective (map f) := by
  rintro ⟨_, _, _, _⟩ ⟨_, _, _, _⟩ h
  simp only [map, Column.mk.injEq] at h ⊢
  exact ⟨hf h.1, hf h.2.1, hf h.2.2.1, hf h.2.2.2⟩

namespace Block

lemma map_injective {f : Column → Column} (hf : Injective f) : Injective (map f) := by
  rintro ⟨_, _, _, _⟩ ⟨_, _, _, _⟩ h
  simp only [map, Block.mk.injEq] at h ⊢
  exact ⟨hf h.1, hf h.2.1, hf h.2.2.1, hf h.2.2.2⟩

lemma xor_right_injective (k : Block) : Injective fun x : Block => x.xor k :=
  Function.LeftInverse.injective (g := fun x => x.xor k) fun x => xor_xor x k

lemma xor_left_injective (x : Block) : Injective x.xor := by
  have hcomm : ∀ y : Block, x.xor y = y.xor x := by
    intro y
    simp only [xor, Column.xor, UInt8.xor_comm]
  intro y z h
  rw [hcomm, hcomm] at h
  exact xor_right_injective x h

lemma toList_injective : Injective toList := by
  rintro ⟨⟨a0, b0, c0, d0⟩, ⟨a1, b1, c1, d1⟩, ⟨a2, b2, c2, d2⟩, ⟨a3, b3, c3, d3⟩⟩ y h
  simp only [toList, Column.toList, List.cons_append, List.nil_append, List.cons.injEq] at h
  obtain ⟨⟨_, _, _, _⟩, ⟨_, _, _, _⟩, ⟨_, _, _, _⟩, ⟨_, _, _, _⟩⟩ := y
  simp only [Block.mk.injEq, Column.mk.injEq]
  tauto

end Block

namespace Aes

lemma substitutions_perm : (substitutions.toList.map UInt8.toNat).Perm (List.range 256) := by
  have hsorted : (substitutions.toList.map UInt8.toNat).insertionSort (· ≤ ·) = List.range 256 := by decide +kernel
  rw [← hsorted]
  exact (List.perm_insertionSort _ _).symm

lemma substitute_injective : Injective substitute := by
  have hlength : (substitutions.toList.map UInt8.toNat).length = 256 := by
    rw [substitutions_perm.length_eq, List.length_range]
  have hlt : ∀ x : UInt8, x.toNat < (substitutions.toList.map UInt8.toNat).length := by
    intro x
    rw [hlength]
    exact x.toNat_lt
  have hget : ∀ x : UInt8, (substitutions.toList.map UInt8.toNat)[x.toNat]? = some (substitute x).toNat := by
    intro x
    have hx : x.toNat < substitutions.toList.length := by
      rw [← List.length_map]
      exact hlt x
    rw [substitute, Array.getD_eq_getD_getElem?, ← Array.getElem?_toList, List.getElem?_map, List.getElem?_eq_getElem hx]
    rfl
  have hnodup := substitutions_perm.nodup_iff.mpr List.nodup_range
  intro x y h
  apply UInt8.toNat_inj.mp
  apply (List.getElem?_inj (hlt x) hnodup).mp
  rw [hget, hget, h]

lemma double_eq (x : UInt8) : double x = (x <<< 1) ^^^ (if x.toBitVec.msb then 0x1b else 0) := by
  have hbit : x < 0x80 ↔ ¬ x.toBitVec.msb = true := by
    rw [BitVec.msb_eq_decide, decide_eq_true_eq, not_le, UInt8.lt_iff_toNat_lt]
    rfl
  rw [double]
  split
  · next h => rw [if_neg (hbit.mp h), UInt8.xor_zero]
  · next h => rw [if_pos (not_not.mp (mt hbit.mpr h))]

lemma double_xor (x y : UInt8) : double (x ^^^ y) = double x ^^^ double y := by
  have hbits : ∀ s t : Bool, (if (s ^^ t) = true then 0x1b else 0 : UInt8) =
      (if s = true then 0x1b else 0) ^^^ (if t = true then 0x1b else 0) := by decide
  rw [double_eq, double_eq, double_eq, UInt8.shiftLeft_xor, UInt8.toBitVec_xor, BitVec.msb_xor, hbits]
  ac_rfl

lemma mixColumn_rotate (x : Column) : mixColumn x.rotate = (mixColumn x).rotate := by
  simp only [mixColumn, Column.rotate, Column.mk.injEq]
  refine ⟨?_, ?_, ?_, ?_⟩ <;> ac_rfl

lemma mixColumn_mixColumn_a (x : Column) : (mixColumn (mixColumn x)).a = x.a ^^^ double (double (x.a ^^^ x.c)) := by
  simp only [mixColumn, double_xor]
  -- what stands twice in the sum goes
  simp only [UInt8.xor_comm, xor_left_comm, UInt8.xor_assoc, xor_self_left]

lemma mixColumn_mixColumn (x : Column) : mixColumn (mixColumn x) =
    ⟨x.a ^^^ double (double (x.a ^^^ x.c)), x.b ^^^ double (double (x.b ^^^ x.d)),
      x.c ^^^ double (double (x.c ^^^ x.a)), x.d ^^^ double (double (x.d ^^^ x.b))⟩ := by
  have ha := mixColumn_mixColumn_a x
  have hb := mixColumn_mixColumn_a x.rotate
  have hc := mixColumn_mixColumn_a x.rotate.rotate
  have hd := mixColumn_mixColumn_a x.rotate.rotate.rotate
  simp only [mixColumn_rotate] at hb hc hd
  exact (congr (congr (congr (congrArg Column.mk ha) hb) hc) hd : _)

lemma mixColumn_four_times (x : Column) : mixColumn (mixColumn (mixColumn (mixColumn x))) = x := by
  have hsame : ∀ u v w : UInt8, (u ^^^ w) ^^^ (v ^^^ w) = u ^^^ v := by
    intro u v w
    rw [UInt8.xor_comm v w, ← UInt8.xor_assoc, UInt8.xor_assoc u, UInt8.xor_self, UInt8.xor_zero]
  obtain ⟨a, b, c, d⟩ := x
  rw [mixColumn_mixColumn, mixColumn_mixColumn]
  simp only [UInt8.xor_comm c a, UInt8.xor_comm d b, hsame, UInt8.xor_assoc, UInt8.xor_self, UInt8.xor_zero]

lemma mixColumn_injective : Injective mixColumn :=
  Function.LeftInverse.injective (g := fun x => mixColumn (mixColumn (mixColumn x))) mixColumn_four_times

lemma shiftRows_injective : Injective shiftRows := by
  rintro ⟨⟨_, _, _, _⟩, ⟨_, _, _, _⟩, ⟨_, _, _, _⟩, ⟨_, _, _, _⟩⟩ ⟨⟨_, _, _, _⟩, ⟨_, _, _, _⟩, ⟨_, _, _, _⟩, ⟨_, _, _, _⟩⟩ h
  simp only [shiftRows, Block.mk.injEq, Column.mk.injEq] at h ⊢
  tauto

lemma substituteBlock_injective : Injective substituteBlock :=
  Block.map_injective (Column.map_injective substitute_injective)

lemma round_injective (roundKey : Block) : Injective (round roundKey) :=
  (Block.xor_right_injective roundKey).comp
    ((Block.map_injective mixColumn_injective).comp (shiftRows_injective.comp substituteBlock_injective))

lemma lastRound_injective (roundKey : Block) : Injective (lastRound roundKey) :=
  (Block.xor_right_injective roundKey).comp (shiftRows_injective.comp substituteBlock_injective)

lemma rounds_injective (roundKeys : List Block) : Injective fun x => roundKeys.foldl (fun x roundKey => round roundKey x) x := by
  induction roundKeys with
  | nil => exact Function.injective_id
  | cons roundKey rest ih => exact ih.comp (round_injective roundKey)

theorem Schedule.encipher_injective (s : Schedule) : Injective s.encipher :=
  (lastRound_injective s.last).comp ((rounds_injective s.middle).comp (Block.xor_right_injective s.first))

end Aes

lemma partStart_inj {n m : Nat} (hn : n < 2 ^ 32) (hm : m < 2 ^ 32) (h : partStart n = partStart m) : n = m := by
  simp only [partStart, Block.mk.injEq, Column.mk.injEq, true_and, ← UInt8.toNat_inj, UInt8.toNat_ofNat'] at h
  omega

end ResumableUpload.Cipher
