import ResumableUpload.Key
import Mathlib.Tactic

/-! A key is read back from its hexadecimal form. -/

namespace ResumableUpload

namespace Text

lemma Trim.both_of_forall_not {p : Char → Bool} {cs : List Char} (h : ∀ c ∈ cs, p c = false) : both p cs = cs := by
  have hdrop : ∀ l : List Char, (∀ c ∈ l, p c = false) → l.dropWhile p = l := by
    intro l hl
    cases l with
    | nil => rfl
    | cons c l => exact List.dropWhile_cons_of_neg (by simp [hl c List.mem_cons_self])
  rw [both, start, stop]
  rw [hdrop cs h, hdrop cs.reverse fun c hc => h c (List.mem_reverse.mp hc), List.reverse_reverse]

namespace Hex

lemma utf8_digit : ∀ n < 16, String.utf8EncodeChar (digit n) = [(digit n).toUInt8] := by decide

lemma digitValue_digit : ∀ n < 16, digitValue? (digit n).toUInt8 = some (UInt8.ofNat n) := by decide

lemma not_isBlank_digit : ∀ n < 16, isBlank (digit n) = false := by decide

lemma halves (b : UInt8) : UInt8.ofNat (b.toNat / 16) * 16 + UInt8.ofNat (b.toNat % 16) = b := by
  have hb := b.toNat_lt
  apply UInt8.toNat_inj.mp
  have h16 : (16 : UInt8).toNat = 16 := rfl
  simp only [UInt8.toNat_add, UInt8.toNat_mul, UInt8.toNat_ofNat', h16]
  omega

lemma not_isBlank_of_mem_encodeChars {l : List UInt8} : ∀ c ∈ encodeChars l, isBlank c = false := by
  induction l with
  | nil => exact nofun
  | cons b l ih =>
    have hb := b.toNat_lt
    intro c hc
    simp only [encodeChars, List.mem_cons] at hc
    rcases hc with rfl | rfl | hc
    · exact not_isBlank_digit _ (by omega)
    · exact not_isBlank_digit _ (by omega)
    · exact ih c hc

lemma utf8_encodeChars_cons (b : UInt8) (l : List UInt8) :
    (encodeChars (b :: l)).flatMap String.utf8EncodeChar =
      (digit (b.toNat / 16)).toUInt8 :: (digit (b.toNat % 16)).toUInt8 ::
        (encodeChars l).flatMap String.utf8EncodeChar := by
  have hb := b.toNat_lt
  simp only [encodeChars, List.flatMap_cons]
  rw [utf8_digit _ (by omega), utf8_digit _ (by omega)]
  rfl

lemma decodePairs_encodeChars (position : Nat) (l : List UInt8) :
    decodePairs position ((encodeChars l).flatMap String.utf8EncodeChar) = .ok l := by
  induction l generalizing position with
  | nil => rfl
  | cons b l ih =>
    have hb := b.toNat_lt
    rw [utf8_encodeChars_cons]
    simp only [decodePairs]
    rw [digitValue_digit _ (by omega), digitValue_digit _ (by omega)]
    simp only [ih, halves]
    rfl

lemma length_utf8_encodeChars (l : List UInt8) :
    ((encodeChars l).flatMap String.utf8EncodeChar).length = 2 * l.length := by
  induction l with
  | nil => rfl
  | cons b l ih =>
    rw [utf8_encodeChars_cons]
    simp only [List.length_cons, ih]
    omega

end Hex

end Text

theorem EncryptionKey.ofHex_toHex (k : EncryptionKey) : ofHex k.toHex = .ok k := by
  have htrim : Text.trim k.toHex = k.toHex := by
    rw [toHex, Text.Hex.encode, Text.trim, Text.trimBy]
    rw [String.toList_ofList, Text.Trim.both_of_forall_not Text.Hex.not_isBlank_of_mem_encodeChars]
  have hdecode : Text.Hex.decode (Text.Utf8.encode k.toHex) = .ok k.bytes := by
    rw [Text.Hex.decode, Text.Utf8.encode, toHex, Text.Hex.encode]
    rw [String.toList_ofList, Text.Hex.length_utf8_encodeChars, Text.Hex.decodePairs_encodeChars]
    simp
  rw [ofHex]
  rw [htrim, hdecode]

end ResumableUpload
