import ResumableUpload.Cipher.Part
import Mathlib.Tactic

/-! Cipher feedback is undone by the same cipher, whatever the cipher is. -/

namespace ResumableUpload.Cipher

namespace Block

@[simp] lemma length_toList (x : Block) : x.toList.length = 16 := rfl

lemma xor_xor (x y : Block) : (x.xor y).xor y = x := by
  simp only [Block.xor, Column.xor, UInt8.xor_assoc, UInt8.xor_self, UInt8.xor_zero]

lemma exists_toList {l : List UInt8} (h : 16 ≤ l.length) : ∃ (x : Block) (rest : List UInt8), l = x.toList ++ rest := by
  match l, h with
  | x0 :: x1 :: x2 :: x3 :: x4 :: x5 :: x6 :: x7 :: x8 :: x9 :: x10 :: x11 :: x12 :: x13 :: x14 :: x15 :: rest, _ =>
    exact ⟨⟨⟨x0, x1, x2, x3⟩, ⟨x4, x5, x6, x7⟩, ⟨x8, x9, x10, x11⟩, ⟨x12, x13, x14, x15⟩⟩, rest, rfl⟩

@[elab_as_elim] theorem induction_on_text {P : List UInt8 → Prop} (text : List UInt8)
    (short : ∀ text, text.length < 16 → P text) (block : ∀ (x : Block) (rest : List UInt8), P rest → P (x.toList ++ rest)) :
    P text := by
  induction hn : text.length using Nat.strong_induction_on generalizing text with
  | _ n ih =>
    by_cases h : text.length < 16
    · exact short text h
    · obtain ⟨x, rest, rfl⟩ := exists_toList (not_lt.mp h)
      have hr : rest.length < n := by
        simp at hn
        omega
      exact block x rest (ih _ hr rest rfl)

end Block

namespace Feedback

variable {encipher : Block → Block} {feed : Block} {acc : List UInt8}

lemma encryptFrom_block (x : Block) (rest : List UInt8) :
    encryptFrom encipher feed acc (x.toList ++ rest) =
      encryptFrom encipher (x.xor (encipher feed)) ((x.xor (encipher feed)).toList.reverse ++ acc) rest := rfl

lemma decryptFrom_block (x : Block) (rest : List UInt8) :
    decryptFrom encipher feed acc (x.toList ++ rest) =
      decryptFrom encipher x ((x.xor (encipher feed)).toList.reverse ++ acc) rest := rfl

lemma encryptFrom_short {text : List UInt8} (h : text.length < 16) :
    encryptFrom encipher feed acc text = finish (encipher feed) acc text := by
  rw [encryptFrom]
  intros
  subst_vars
  simp only [List.length_cons] at h
  omega

lemma decryptFrom_short {text : List UInt8} (h : text.length < 16) :
    decryptFrom encipher feed acc text = finish (encipher feed) acc text := by
  rw [decryptFrom]
  intros
  subst_vars
  simp only [List.length_cons] at h
  omega

lemma finish_acc (mask : Block) (acc text : List UInt8) : finish mask acc text = acc.reverse ++ finish mask [] text := rfl

lemma length_finish {mask : Block} {text : List UInt8} (h : text.length < 16) : (finish mask [] text).length = text.length := by
  simp [finish, h.le]

lemma zipWith_xor_twice {text mask : List UInt8} (h : text.length ≤ mask.length) :
    List.zipWith (· ^^^ ·) (List.zipWith (· ^^^ ·) text mask) mask = text := by
  induction text generalizing mask with
  | nil => simp
  | cons x text ih =>
    cases mask with
    | nil => simp at h
    | cons m mask =>
      simp only [List.zipWith_cons_cons, ih (by simpa using h), UInt8.xor_assoc, UInt8.xor_self, UInt8.xor_zero]

lemma finish_finish {mask : Block} {text : List UInt8} (h : text.length < 16) :
    finish mask acc (finish mask [] text) = acc.reverse ++ text := by
  rw [finish_acc]
  exact congrArg _ (zipWith_xor_twice h.le)

lemma take_finish (mask : Block) (text : List UInt8) (k : Nat) :
    (finish mask [] text).take k = finish mask [] (text.take k) := by
  have hlength : (List.zipWith (· ^^^ ·) (text.take k) mask.toList).length ≤ k := by
    rw [List.length_zipWith, List.length_take]
    omega
  calc (finish mask [] text).take k
      = List.zipWith (· ^^^ ·) ((text.take k).take k) (mask.toList.take k) := by
        rw [List.take_take, Nat.min_self]
        exact List.take_zipWith
    _ = finish mask [] (text.take k) := by
        rw [← List.take_zipWith]
        exact List.take_of_length_le hlength

lemma encryptFrom_acc (text : List UInt8) :
    encryptFrom encipher feed acc text = acc.reverse ++ encryptFrom encipher feed [] text := by
  induction text using Block.induction_on_text generalizing feed acc with
  | short text h => rw [encryptFrom_short h, encryptFrom_short h, finish_acc]
  | block x rest ih =>
    rw [encryptFrom_block, encryptFrom_block, ih, @ih _ (_ ++ [])]
    simp

lemma decryptFrom_acc (text : List UInt8) :
    decryptFrom encipher feed acc text = acc.reverse ++ decryptFrom encipher feed [] text := by
  induction text using Block.induction_on_text generalizing feed acc with
  | short text h => rw [decryptFrom_short h, decryptFrom_short h, finish_acc]
  | block x rest ih =>
    rw [decryptFrom_block, decryptFrom_block, ih, @ih _ (_ ++ [])]
    simp

lemma encryptFrom_block_nil (x : Block) (rest : List UInt8) : encryptFrom encipher feed [] (x.toList ++ rest) =
    (x.xor (encipher feed)).toList ++ encryptFrom encipher (x.xor (encipher feed)) [] rest := by
  rw [encryptFrom_block, encryptFrom_acc, List.append_nil, List.reverse_reverse]

lemma decryptFrom_block_nil (x : Block) (rest : List UInt8) : decryptFrom encipher feed [] (x.toList ++ rest) =
    (x.xor (encipher feed)).toList ++ decryptFrom encipher x [] rest := by
  rw [decryptFrom_block, decryptFrom_acc, List.append_nil, List.reverse_reverse]

lemma decryptFrom_encryptFrom (text : List UInt8) :
    decryptFrom encipher feed acc (encryptFrom encipher feed [] text) = acc.reverse ++ text := by
  induction text using Block.induction_on_text generalizing feed acc with
  | short text h => rw [encryptFrom_short h, decryptFrom_short (by rwa [length_finish h]), finish_finish h]
  | block x rest ih =>
    rw [encryptFrom_block_nil, decryptFrom_block, ih, Block.xor_xor]
    simp

lemma encryptFrom_decryptFrom (text : List UInt8) :
    encryptFrom encipher feed acc (decryptFrom encipher feed [] text) = acc.reverse ++ text := by
  induction text using Block.induction_on_text generalizing feed acc with
  | short text h => rw [decryptFrom_short h, encryptFrom_short (by rwa [length_finish h]), finish_finish h]
  | block x rest ih =>
    -- what is fed on is the block of the text again, as in its decryption
    rw [decryptFrom_block_nil, encryptFrom_block, Block.xor_xor, ih]
    simp

lemma length_decryptFrom (text : List UInt8) :
    (decryptFrom encipher feed acc text).length = acc.length + text.length := by
  induction text using Block.induction_on_text generalizing feed acc with
  | short text h => rw [decryptFrom_short h, finish_acc, List.length_append, List.length_reverse, length_finish h]
  | block x rest ih =>
    rw [decryptFrom_block, ih]
    simp
    omega

lemma take_encryptFrom (text : List UInt8) (k : Nat) :
    (encryptFrom encipher feed [] text).take k = encryptFrom encipher feed [] (text.take k) := by
  induction text using Block.induction_on_text generalizing feed k with
  | short text h =>
    have hk : (text.take k).length < 16 := by
      rw [List.length_take]
      omega
    rw [encryptFrom_short h, encryptFrom_short hk, take_finish]
  | block x rest ih =>
    rw [encryptFrom_block_nil]
    rcases lt_or_ge k 16 with hk | hk
    · -- only bytes of the first block are wanted
      have hkx : (x.toList.take k).length < 16 := by
        rw [List.length_take]
        omega
      rw [List.take_append_of_le_length (by simp; omega), List.take_append_of_le_length (by simp; omega),
        encryptFrom_short hkx, ← take_finish]
      rfl
    · obtain ⟨j, rfl⟩ : ∃ j, k = 16 + j := ⟨k - 16, by omega⟩
      have hblock : ∀ (y : Block) (l : List UInt8), (y.toList ++ l).take (16 + j) = y.toList ++ l.take j := by
        intro y l
        rw [← y.length_toList, List.take_length_add_append]
      rw [hblock, hblock, encryptFrom_block_nil, ih]

theorem decrypt_encrypt (encipher : Block → Block) (start : Block) (text : List UInt8) :
    decrypt encipher start (encrypt encipher start text) = text :=
  decryptFrom_encryptFrom text

theorem encrypt_decrypt (encipher : Block → Block) (start : Block) (text : List UInt8) :
    encrypt encipher start (decrypt encipher start text) = text :=
  encryptFrom_decryptFrom text

lemma length_decrypt (encipher : Block → Block) (start : Block) (text : List UInt8) :
    (decrypt encipher start text).length = text.length := by
  rw [decrypt, length_decryptFrom, List.length_nil, Nat.zero_add]

lemma length_encrypt (encipher : Block → Block) (start : Block) (text : List UInt8) :
    (encrypt encipher start text).length = text.length := by
  rw [← length_decrypt encipher start, decrypt_encrypt]

lemma take_encrypt (encipher : Block → Block) (start : Block) (text : List UInt8) (k : Nat) :
    (encrypt encipher start text).take k = encrypt encipher start (text.take k) :=
  take_encryptFrom text k

lemma take_encrypt_block (encipher : Block → Block) (start x : Block) (rest : List UInt8) :
    (encrypt encipher start (x.toList ++ rest)).take 16 = (x.xor (encipher start)).toList := by
  rw [encrypt, encryptFrom_block_nil]
  rfl

end Feedback

theorem decryptPart_of_encryptPart {key : EncryptionKey} {part : Nat} {payload body : Bytes}
    (h : encryptPart key part payload = .ok body) : decryptPart key part body = .ok payload := by
  rw [encryptPart] at h
  rw [decryptPart]
  split at h
  · next hk =>
    cases h
    rw [if_pos hk]
    simp only [Bytes.octets_ofList, Feedback.decrypt_encrypt, Bytes.ofList_octets]
  · cases h

lemma size_of_decryptPart {key : EncryptionKey} {part : Nat} {payload body : Bytes}
    (h : decryptPart key part body = .ok payload) : payload.size = body.size := by
  rw [decryptPart] at h
  split at h
  · cases h
    rw [← Bytes.length_octets, Bytes.octets_ofList, Feedback.length_decrypt, Bytes.length_octets]
  · cases h

end ResumableUpload.Cipher
