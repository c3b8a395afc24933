import Mathlib.Data.List.Induction
import ResumableUpload.Proofs.Key

/-! Which texts are read as hexadecimal, and what the bytes that are read look like when they are written. -/

namespace ResumableUpload.Text.Hex

def IsDigit (c : Char) : Prop := c ∈ "0123456789abcdefABCDEF".toList

instance : DecidablePred IsDigit := fun c => inferInstanceAs (Decidable (c ∈ _))

variable {c d : Char} {cs : List Char} {position : Nat} {bytes : List UInt8}

structure Denotes (c : Char) (v : UInt8) : Prop where
  utf8 : String.utf8EncodeChar c = [c.toUInt8]
  value : digitValue? c.toUInt8 = some v
  lt : v.toNat < 16
  written : digit v.toNat = c.toLower

lemma IsDigit.denotes (h : IsDigit c) : ∃ v, Denotes c v := by
  have hall : "0123456789abcdefABCDEF".toList.all (fun c => decide (String.utf8EncodeChar c = [c.toUInt8] ∧
      (digitValue? c.toUInt8).any (fun v => v.toNat < 16 ∧ digit v.toNat = c.toLower) = true)) = true := by decide
  obtain ⟨hutf8, hany⟩ := of_decide_eq_true (List.all_eq_true.mp hall c h)
  obtain ⟨v, hv, hdigit⟩ := (Option.any_eq_true _ _).mp hany
  obtain ⟨hlt, hwritten⟩ := of_decide_eq_true hdigit
  exact ⟨v, hutf8, hv, hlt, hwritten⟩

lemma digitValue?_of_le {b : UInt8} (h : 0x80 ≤ b) : digitValue? b = none := by
  have hb : 0x80 ≤ b.toNat := h
  have hle : ∀ n : UInt8, n.toNat < 0x80 → ¬ b ≤ n := fun n hn hbn => by
    have : b.toNat ≤ n.toNat := hbn
    omega
  rw [digitValue?, if_neg fun h => hle 0x39 (by decide) h.2, if_neg fun h => hle 0x66 (by decide) h.2,
    if_neg fun h => hle 0x46 (by decide) h.2]

lemma exists_byte_of_le (h : 0x80 ≤ c.toNat) : ∃ b ∈ String.utf8EncodeChar c, 0x80 ≤ b := by
  have hlong : ¬ c.val.toNat ≤ 127 := Nat.not_le.mpr h
  refine ⟨UInt8.ofNat (c.val.toNat % 64 + 128), ?_, ?_⟩
  · rw [String.utf8EncodeChar]
    rw [if_neg hlong]
    split
    · exact List.mem_cons_of_mem _ List.mem_cons_self
    · split <;> simp
  · rw [UInt8.le_iff_toNat_le, UInt8.toNat_ofNat']
    change 128 ≤ _
    omega

lemma isDigit_of_bytes (h : ∀ b ∈ String.utf8EncodeChar c, (digitValue? b).isSome) : IsDigit c := by
  have hascii : ∀ n < 128, (String.utf8EncodeChar (Char.ofNat n)).all (digitValue? · |>.isSome) = true →
      IsDigit (Char.ofNat n) := by decide
  by_cases hlt : c.toNat < 128
  · rw [← Char.ofNat_toNat c] at h ⊢
    exact hascii _ hlt (List.all_eq_true.mpr h)
  · obtain ⟨b, hb, hle⟩ := exists_byte_of_le (Nat.not_lt.mp hlt)
    have hsome := h b hb
    rw [digitValue?_of_le hle] at hsome
    cases hsome

lemma length_utf8_of_digits (h : ∀ c ∈ cs, IsDigit c) : (cs.flatMap String.utf8EncodeChar).length = cs.length := by
  induction cs with
  | nil => rfl
  | cons c rest ih =>
    obtain ⟨hc, hrest⟩ := List.forall_mem_cons.mp h
    obtain ⟨v, hv⟩ := hc.denotes
    rw [List.flatMap_cons, List.length_append, hv.utf8, ih hrest, List.length_singleton, List.length_cons, Nat.add_comm]

lemma encodeChars_pair {high low : UInt8} (hhigh : high.toNat < 16) (hlow : low.toNat < 16) :
    encodeChars ((high * 16 + low) :: bytes) = digit high.toNat :: digit low.toNat :: encodeChars bytes := by
  have h16 : (16 : UInt8).toNat = 16 := rfl
  have hsum : (high * 16 + low).toNat = high.toNat * 16 + low.toNat := by
    rw [UInt8.toNat_add, UInt8.toNat_mul, h16]
    omega
  rw [encodeChars, hsum]
  congr 2
  · omega
  · congr 1
    omega

variable (position) in
lemma decodePairs_of_digits (h : ∀ c ∈ cs, IsDigit c) (heven : Even cs.length) :
    ∃ bytes, decodePairs position (cs.flatMap String.utf8EncodeChar) = .ok bytes ∧
      encodeChars bytes = cs.map Char.toLower := by
  induction cs using List.twoStepInduction generalizing position with
  | nil => exact ⟨[], rfl, rfl⟩
  | singleton c => exact absurd heven Nat.not_even_one
  | cons_cons c d rest ih _ =>
    obtain ⟨hc, hd, hrest⟩ : IsDigit c ∧ IsDigit d ∧ ∀ e ∈ rest, IsDigit e := by simpa using h
    obtain ⟨high, hhigh⟩ := hc.denotes
    obtain ⟨low, hlow⟩ := hd.denotes
    have heven : Even rest.length := by simpa [Nat.even_add] using heven
    obtain ⟨bytes, hbytes, hwritten⟩ := ih (position + 2) hrest heven
    refine ⟨(high * 16 + low) :: bytes, ?_, ?_⟩
    · rw [List.flatMap_cons, List.flatMap_cons, hhigh.utf8, hlow.utf8]
      simp only [List.singleton_append, decodePairs, hhigh.value, hlow.value, hbytes]
      rfl
    · rw [encodeChars_pair hhigh.lt hlow.lt, hhigh.written, hlow.written, hwritten]
      rfl

lemma digits_of_decodePairs {l : List UInt8} (h : decodePairs position l = .ok bytes) (heven : Even l.length) :
    ∀ b ∈ l, (digitValue? b).isSome := by
  induction l using List.twoStepInduction generalizing position bytes with
  | nil => exact List.forall_mem_nil _
  | singleton b => exact absurd heven Nat.not_even_one
  | cons_cons high low rest ih _ =>
    have heven : Even rest.length := by simpa [Nat.even_add] using heven
    rw [decodePairs] at h
    split at h
    · next hhigh hlow =>
      cases hrest : decodePairs (position + 2) rest with
      | error e =>
        rw [hrest] at h
        cases h
      | ok bytes =>
        refine List.forall_mem_cons.mpr ⟨?_, List.forall_mem_cons.mpr ⟨?_, ih hrest heven⟩⟩
        · rw [hhigh, Option.isSome_some]
        · rw [hlow, Option.isSome_some]
    · cases h
    · cases h

lemma decode_of_digits (h : ∀ c ∈ cs, IsDigit c) (heven : Even cs.length) :
    ∃ bytes, decode (cs.flatMap String.utf8EncodeChar) = .ok bytes ∧ encodeChars bytes = cs.map Char.toLower := by
  have hodd : ¬ (cs.flatMap String.utf8EncodeChar).length % 2 = 1 := by
    rw [length_utf8_of_digits h, ← Nat.odd_iff, Nat.not_odd_iff_even]
    exact heven
  rw [decode, if_neg hodd]
  exact decodePairs_of_digits 0 h heven

lemma digits_of_decode (h : decode (cs.flatMap String.utf8EncodeChar) = .ok bytes) :
    Even cs.length ∧ ∀ c ∈ cs, IsDigit c := by
  rw [decode] at h
  split at h
  · cases h
  · next hodd =>
    have heven : Even (cs.flatMap String.utf8EncodeChar).length := Nat.not_odd_iff_even.mp (mt Nat.odd_iff.mp hodd)
    have hdigits : ∀ c ∈ cs, IsDigit c := fun c hc =>
      isDigit_of_bytes fun b hb => digits_of_decodePairs h heven b (List.mem_flatMap_of_mem hc hb)
    rw [length_utf8_of_digits hdigits] at heven
    exact ⟨heven, hdigits⟩

end ResumableUpload.Text.Hex
