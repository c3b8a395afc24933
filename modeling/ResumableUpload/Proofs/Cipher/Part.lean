import ResumableUpload.Proofs.Cipher.Aes

/-! What a key makes of the parts of a file: any bytes are the encryption of just one text, which is as long as they are, and
no two parts of a file begin under the same mask. -/

namespace ResumableUpload.Cipher

variable {key : EncryptionKey} {n m : Nat} {payload : Bytes}

lemma isKeySize_iff {size : Nat} : Aes.isKeySize size = true ↔ size ∈ [16, 24, 32] := by simp [Aes.isKeySize, or_assoc]

def partCipher (key : EncryptionKey) (n : Nat) : Equiv.Perm Bytes where
  toFun x := .ofList (Feedback.encrypt (Aes.Schedule.ofKey key.bytes).encipher (partStart n) x.octets)
  invFun x := .ofList (Feedback.decrypt (Aes.Schedule.ofKey key.bytes).encipher (partStart n) x.octets)
  left_inv x := by simp only [Bytes.octets_ofList, Feedback.decrypt_encrypt, Bytes.ofList_octets]
  right_inv x := by simp only [Bytes.octets_ofList, Feedback.encrypt_decrypt, Bytes.ofList_octets]

lemma encryptPart_of_size (h : key.bytes.length ∈ [16, 24, 32]) : encryptPart key n payload = .ok (partCipher key n payload) :=
  if_pos (isKeySize_iff.mpr h)

lemma decryptPart_of_size (h : key.bytes.length ∈ [16, 24, 32]) :
    decryptPart key n payload = .ok ((partCipher key n).symm payload) :=
  if_pos (isKeySize_iff.mpr h)

lemma octets_partCipher (x : Bytes) : (partCipher key n x).octets =
    Feedback.encrypt (Aes.Schedule.ofKey key.bytes).encipher (partStart n) x.octets := rfl

lemma size_partCipher (x : Bytes) : (partCipher key n x).size = x.size := by
  rw [← Bytes.length_octets, octets_partCipher, Feedback.length_encrypt, Bytes.length_octets]

lemma partCipher_extract (x : Bytes) (k : Nat) : partCipher key n (x.extract 0 k) = (partCipher key n x).extract 0 k := by
  apply Bytes.octets_injective
  simp only [Bytes.octets_extract, octets_partCipher, List.drop_zero, Feedback.take_encrypt]

/-- Under a key of a size that there is, encryption and decryption are each other's inverse, keep the length, and make of the
beginning of a text the beginning of what they make of the text; under any other key both are refused. -/
theorem encryptPart_bijective (key : EncryptionKey) (n : Nat) :
    (key.bytes.length ∈ [16, 24, 32] → ∃ cipher : Equiv.Perm Bytes, ∀ x : Bytes,
      encryptPart key n x = .ok (cipher x) ∧ decryptPart key n x = .ok (cipher.symm x) ∧
        (cipher x).size = x.size ∧ (cipher.symm x).size = x.size ∧ ∀ k, cipher (x.extract 0 k) = (cipher x).extract 0 k) ∧
    (key.bytes.length ∉ [16, 24, 32] → ∃ detail, ∀ x : Bytes,
      encryptPart key n x = .error (.encryption detail) ∧ decryptPart key n x = .error (.encryption detail)) := by
  refine ⟨fun h => ⟨partCipher key n, fun x => ?_⟩, fun h => ?_⟩
  · have hsymm : ((partCipher key n).symm x).size = x.size := by
      rw [← size_partCipher ((partCipher key n).symm x), Equiv.apply_symm_apply]
    exact ⟨encryptPart_of_size h, decryptPart_of_size h, size_partCipher x, hsymm, partCipher_extract x⟩
  · have hsize : ¬ Aes.isKeySize key.bytes.length = true := mt isKeySize_iff.mp h
    exact ⟨_, fun x => ⟨if_neg hsize, if_neg hsize⟩⟩

def plainKey (size : Nat) : EncryptionKey := ⟨List.replicate size 7⟩

theorem encryptPart_bijective_plain :
    (∃ cipher : Equiv.Perm Bytes, encryptPart (plainKey 24) 2 (.ofList [1, 2, 3]) = .ok (cipher (.ofList [1, 2, 3])) ∧
      decryptPart (plainKey 24) 2 (cipher (.ofList [1, 2, 3])) = .ok (.ofList [1, 2, 3])) ∧
    ∃ detail, encryptPart (plainKey 17) 2 (.ofList [1, 2, 3]) = .error (.encryption detail) := by
  obtain ⟨cipher, hcipher⟩ := (encryptPart_bijective (plainKey 24) 2).1 (by decide)
  obtain ⟨detail, hdetail⟩ := (encryptPart_bijective (plainKey 17) 2).2 (by decide)
  refine ⟨⟨cipher, (hcipher _).1, ?_⟩, detail, (hdetail _).1⟩
  have hback := (hcipher (cipher (.ofList [1, 2, 3]))).2.1
  rwa [Equiv.symm_apply_apply] at hback

/-- What comes out first under two starts differs, since the cipher takes different blocks to different masks. -/
theorem encryptPart_take_ne (hkey : key.bytes.length ∈ [16, 24, 32]) (hn : n < 2 ^ 32) (hm : m < 2 ^ 32) (hne : n ≠ m)
    (hsize : 16 ≤ payload.size) :
    ∃ x y, encryptPart key n payload = .ok x ∧ encryptPart key m payload = .ok y ∧ x.octets.take 16 ≠ y.octets.take 16 := by
  refine ⟨_, _, encryptPart_of_size hkey, encryptPart_of_size hkey, fun heq => hne ?_⟩
  rw [← Bytes.length_octets] at hsize
  obtain ⟨block, rest, hblock⟩ := Block.exists_toList hsize
  rw [octets_partCipher, octets_partCipher, hblock, Feedback.take_encrypt_block, Feedback.take_encrypt_block] at heq
  have hmask := Block.xor_left_injective block (Block.toList_injective heq)
  exact partStart_inj hn hm ((Aes.Schedule.ofKey key.bytes).encipher_injective hmask)

theorem encryptPart_take_ne_plain : (1 : Nat) < 2 ^ 32 ∧ 257 < 2 ^ 32 ∧
    ∃ x y, encryptPart (plainKey 32) 1 (.ofList (List.replicate 19 0)) = .ok x ∧
      encryptPart (plainKey 32) 257 (.ofList (List.replicate 19 0)) = .ok y ∧ x.octets.take 16 ≠ y.octets.take 16 :=
  ⟨by decide, by decide, encryptPart_take_ne (by decide) (by decide) (by decide) (by decide) (by decide)⟩

end ResumableUpload.Cipher
