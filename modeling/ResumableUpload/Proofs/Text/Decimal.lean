import ResumableUpload.Proofs.Key
import ResumableUpload.Text.Charset
import ResumableUpload.Text.Decimal

/-! Numbers that are written in decimal digits are read back, also when they come as the bytes of a text. -/

namespace ResumableUpload.Text

namespace Utf8

lemma decode?_toUTF8 (s : String) : decode? s.toUTF8 = some s := by
  simp only [decode?, String.fromUTF8?, String.toUTF8_eq_toByteArray, dif_pos s.isValidUTF8]
  rfl

lemma decodeLossy_toUTF8 (s : String) : decodeLossy s.toUTF8 = s := by rw [decodeLossy, decode?_toUTF8]

end Utf8

namespace Charset

lemma octets_toUTF8 (s : String) : Bytes.octets s.toUTF8 = s.toList.flatMap String.utf8EncodeChar := by
  rw [Bytes.octets, String.toUTF8_eq_toByteArray, ← String.utf8Encode_toList, List.utf8Encode]
  simp

lemma marked?_eq_none {b : Bytes} {first : UInt8} {rest : List UInt8} (h : Bytes.octets b = first :: rest)
    (hf : first < 0x80) : marked? b = none := by
  rw [marked?, Bytes.octets_extract, h]
  simp only [List.drop_zero, Nat.sub_zero, List.take_succ_cons]
  split
  · next he => exact absurd ((List.cons.inj he).1 ▸ hf) (by decide)
  · next he => exact absurd ((List.cons.inj he).1 ▸ hf) (by decide)
  · next he => exact absurd ((List.cons.inj he).1 ▸ hf) (by decide)
  · rfl

end Charset

lemma Utf8.decode?_encode (s : String) : decode? (.ofList (encode s)) = some s := by
  rw [encode, ← Charset.octets_toUTF8, Bytes.ofList_octets]
  exact decode?_toUTF8 s

namespace Decimal

lemma mem_of_isDigit {c : Char} (h : c.isDigit = true) : c ∈ "0123456789".toList := by
  simp only [Char.isDigit, Bool.and_eq_true, decide_eq_true_eq] at h
  have hlow : 48 ≤ c.toNat := h.1
  have hhigh : c.toNat ≤ 57 := h.2
  rw [← Char.ofNat_toNat c]
  generalize c.toNat = n at hlow hhigh ⊢
  interval_cases n <;> decide

lemma digit_facts : ∀ c ∈ "0123456789".toList,
    String.utf8EncodeChar c = [c.toUInt8] ∧ c.toUInt8 < 0x80 ∧ isBlank c = false ∧ c ≠ '+' := by
  have hall : "0123456789".toList.all (fun c => decide
      (String.utf8EncodeChar c = [c.toUInt8] ∧ c.toUInt8 < 0x80 ∧ isBlank c = false ∧ c ≠ '+')) = true := by decide
  exact fun c hc => of_decide_eq_true (List.all_eq_true.mp hall c hc)

lemma toList_toString (n : Nat) : (toString n).toList = Nat.toDigits 10 n := by
  rw [Nat.toString_eq_ofList_toDigits, String.toList_ofList]

lemma isDigit_of_mem {n : Nat} {c : Char} (h : c ∈ (toString n).toList) : c.isDigit = true := by
  rw [toList_toString] at h
  exact Nat.isDigit_of_mem_toDigits (by decide) (by decide) h

lemma exists_cons (n : Nat) : ∃ c rest, (toString n).toList = c :: rest ∧ c.isDigit = true := by
  cases hl : (toString n).toList with
  | nil =>
    rw [toList_toString] at hl
    exact absurd hl Nat.toDigits_ne_nil
  | cons c rest =>
    have hc : c ∈ (toString n).toList := hl ▸ List.mem_cons_self
    exact ⟨c, rest, rfl, isDigit_of_mem hc⟩

lemma trim_toString (n : Nat) : trim (toString n) = toString n := by
  have hblank : ∀ c ∈ (toString n).toList, isBlank c = false :=
    fun c hc => (digit_facts c (mem_of_isDigit (isDigit_of_mem hc))).2.2.1
  rw [trim, trimBy, Trim.both_of_forall_not hblank, String.ofList_toList]

lemma decode_toString (n : Nat) : Charset.decode .utf8 (toString n).toUTF8 = toString n := by
  obtain ⟨c, rest, hl, hc⟩ := exists_cons n
  obtain ⟨hencode, hascii, -⟩ := digit_facts c (mem_of_isDigit hc)
  have hoctets : Bytes.octets (toString n).toUTF8 = c.toUInt8 :: rest.flatMap String.utf8EncodeChar := by
    rw [Charset.octets_toUTF8, hl, List.flatMap_cons, hencode]
    rfl
  rw [Charset.decode, Charset.marked?_eq_none hoctets hascii]
  exact Utf8.decodeLossy_toUTF8 _

lemma value_toString (n : Nat) : value (toString n).toList = n := by
  rw [toList_toString]
  exact Nat.ofDigitChars_ten_toDigits

theorem read?_toString {bound n : Nat} (h : n < bound) : read? bound (toString n) = some n := by
  obtain ⟨c, rest, hl, hc⟩ := exists_cons n
  have hplus : c ≠ '+' := (digit_facts c (mem_of_isDigit hc)).2.2.2
  have hvalue : value (c :: rest) = n := by rw [← hl, value_toString]
  have hall : (c :: rest).all Char.isDigit = true := by
    rw [← hl, List.all_eq_true]
    exact fun _ => isDigit_of_mem
  rw [read?, hl, readChars?]
  · rw [readChars?.readDigits, if_pos ⟨List.cons_ne_nil _ _, hall, hvalue.symm ▸ h⟩, hvalue]
  · intro digits he
    exact hplus (List.cons.inj he).1

lemma trim_filter_toString (n : Nat) : (some (trim (toString n))).filter (· ≠ "") = some (toString n) := by
  have hne : toString n ≠ "" := by
    intro he
    obtain ⟨c, rest, hl, -⟩ := exists_cons n
    rw [he] at hl
    cases hl
  rw [trim_toString, Option.filter_some, if_pos (decide_eq_true hne)]

lemma readUInt32?_toString {n : Nat} (h : n < UInt32.size) : readUInt32? (toString n) = some (.ofNat n) := by
  rw [readUInt32?, read?_toString h]
  rfl

lemma readUInt64?_toString (n : UInt64) : readUInt64? (toString n.toNat) = some n := by
  rw [readUInt64?, read?_toString n.toNat_lt, Option.map_some, UInt64.ofNat_toNat]

def Spells (s : String) (n : Nat) : Prop :=
  ∃ digits, (s.toList = digits ∨ s.toList = '+' :: digits) ∧ digits ≠ [] ∧ (∀ c ∈ digits, c.isDigit = true) ∧ value digits = n

lemma readDigits_eq_some {bound n : Nat} {digits : List Char} : readChars?.readDigits bound digits = some n ↔
    digits ≠ [] ∧ (∀ c ∈ digits, c.isDigit = true) ∧ value digits = n ∧ n < bound := by
  rw [readChars?.readDigits]
  constructor
  · intro h
    split at h
    · next hd =>
      cases h
      exact ⟨hd.1, List.all_eq_true.mp hd.2.1, rfl, hd.2.2⟩
    · cases h
  · rintro ⟨hne, hall, rfl, hlt⟩
    rw [if_pos ⟨hne, List.all_eq_true.mpr hall, hlt⟩]

theorem read?_eq_some {bound n : Nat} {s : String} : read? bound s = some n ↔ Spells s n ∧ n < bound := by
  rw [read?, Spells]
  constructor
  · intro h
    rw [readChars?.eq_def] at h
    split at h
    · next digits hs =>
      obtain ⟨hne, hall, hvalue, hlt⟩ := readDigits_eq_some.mp h
      exact ⟨⟨digits, .inr hs, hne, hall, hvalue⟩, hlt⟩
    · obtain ⟨hne, hall, hvalue, hlt⟩ := readDigits_eq_some.mp h
      exact ⟨⟨_, .inl rfl, hne, hall, hvalue⟩, hlt⟩
  · rintro ⟨⟨digits, hs | hs, hne, hall, hvalue⟩, hlt⟩
    · rw [hs, readChars?]
      · exact readDigits_eq_some.mpr ⟨hne, hall, hvalue, hlt⟩
      · rintro rest rfl
        exact absurd (hall '+' List.mem_cons_self) (by decide)
    · rw [hs, readChars?]
      exact readDigits_eq_some.mpr ⟨hne, hall, hvalue, hlt⟩

lemma readUInt32?_eq_some {s : String} {n : UInt32} : readUInt32? s = some n ↔ Spells s n.toNat := by
  rw [readUInt32?, Option.map_eq_some_iff]
  constructor
  · rintro ⟨k, hk, rfl⟩
    obtain ⟨hspells, hlt⟩ := read?_eq_some.mp hk
    rwa [UInt32.toNat_ofNat_of_lt' hlt]
  · exact fun h => ⟨n.toNat, read?_eq_some.mpr ⟨h, n.toNat_lt⟩, UInt32.ofNat_toNat⟩

lemma readUInt64?_eq_some {s : String} {n : UInt64} : readUInt64? s = some n ↔ Spells s n.toNat := by
  rw [readUInt64?, Option.map_eq_some_iff]
  constructor
  · rintro ⟨k, hk, rfl⟩
    obtain ⟨hspells, hlt⟩ := read?_eq_some.mp hk
    rwa [UInt64.toNat_ofNat_of_lt' hlt]
  · exact fun h => ⟨n.toNat, read?_eq_some.mpr ⟨h, n.toNat_lt⟩, UInt64.ofNat_toNat⟩

end Decimal

end ResumableUpload.Text
