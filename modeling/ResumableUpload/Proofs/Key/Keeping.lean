import Mathlib.Data.Bool.AllAny
import ResumableUpload.Proofs.Text.Hex
import ResumableUpload.Proofs.Text.Trim
import ResumableUpload.Store.Backends
import ResumableUpload.Upload.Keys

/-! Keys survive the secret store. A key is read back from its hexadecimal form, whatever blanks stand around it, and no
other text is taken for a key. -/

namespace ResumableUpload

namespace EncryptionKey

variable {k : EncryptionKey} {s value : String} {e : UploadError}

lemma trims_toHex {front back : String} (hfront : ∀ c ∈ front.toList, Text.isBlank c = true)
    (hback : ∀ c ∈ back.toList, Text.isBlank c = true) : Text.Trims (front ++ k.toHex ++ back) k.toHex := by
  have hblank : ∀ c ∈ k.toHex.toList, Text.isBlank c = false := by
    rw [toHex, Text.Hex.encode, String.toList_ofList]
    exact Text.Hex.not_isBlank_of_mem_encodeChars
  refine ⟨⟨front.toList, back.toList, ?_, hfront, hback⟩, ?_, ?_⟩
  · rw [String.toList_append, String.toList_append]
  · exact fun c hc => hblank c (List.mem_of_head? hc)
  · exact fun c hc => hblank c (List.mem_of_getLast? hc)

lemma ofHex_eq_of_trims (h : Text.Trims s value) : ofHex s = ofHex value := by
  have hvalue : Text.Trims value value := ⟨⟨[], [], by simp, List.forall_mem_nil _, List.forall_mem_nil _⟩, h.head, h.last⟩
  rw [ofHex, ofHex, Text.trim_eq_iff.mpr h, Text.trim_eq_iff.mpr hvalue]

lemma ofHex_of_trims (h : Text.Trims s value) :
    ofHex s = match Text.Hex.decode (value.toList.flatMap String.utf8EncodeChar) with
      | .ok bytes => .ok ⟨bytes⟩
      | .error e => .error (.invalidKey (describeMalformed e)) := by
  rw [ofHex, Text.trim_eq_iff.mpr h]
  rfl

lemma exists_decode_of_ofHex (h : Text.Trims s value) (hk : ofHex s = .ok k) :
    Text.Hex.decode (value.toList.flatMap String.utf8EncodeChar) = .ok k.bytes := by
  rw [ofHex_of_trims h] at hk
  split at hk
  · next hdecode =>
    cases hk
    exact hdecode
  · cases hk

lemma ofHex_of_digits (h : Text.Trims s value) (hdigits : ∀ c ∈ value.toList, Text.Hex.IsDigit c)
    (heven : Even value.length) : ∃ k, ofHex s = .ok k ∧ k.toHex = Text.lower value := by
  obtain ⟨bytes, hdecode, hwritten⟩ := Text.Hex.decode_of_digits hdigits (String.length_toList ▸ heven)
  refine ⟨⟨bytes⟩, ?_, ?_⟩
  · rw [ofHex_of_trims h, hdecode]
  · rw [toHex, Text.Hex.encode, hwritten, Text.lower]

lemma digits_of_ofHex (h : Text.Trims s value) (hk : ofHex s = .ok k) :
    Even value.length ∧ ∀ c ∈ value.toList, Text.Hex.IsDigit c := by
  rw [← String.length_toList]
  exact Text.Hex.digits_of_decode (exists_decode_of_ofHex h hk)

lemma invalidKey_of_ofHex (h : ofHex s = .error e) : ∃ detail, e = .invalidKey detail := by
  rw [ofHex] at h
  split at h <;> cases h
  exact ⟨_, rfl⟩

end EncryptionKey

def Retains {σ : Type} (respond : (q : Call) → σ → q.Answer × σ) : Prop :=
  ∀ (s : σ) (path name value : String), (respond (.secret (.write path name value)) s).1 = .ok () →
    (respond (.secret (.read path name)) (respond (.secret (.write path name value)) s).2).1 = .ok value

namespace Backends

lemma respond_read_write (b : Backends) (path name value : String) :
    respond (.secret (.read path name)) { b with secrets := b.secrets.write path name value } =
      (.ok value, { b with secrets := b.secrets.write path name value }) := by
  simp [respond, SecretStore.respond, SecretStore.read, SecretStore.write, SecretStore.get?, Table.get?_insert]

lemma retains : Retains respond := by
  intro b path name value _
  have hread := b.respond_read_write path name value
  exact congrArg Prod.fst hread

end Backends

namespace Keys

variable {σ : Type} {respond : (q : Call) → σ → q.Answer × σ} {s s' : σ} {root path : String} {k : EncryptionKey}

lemma run_generate (respond : (q : Call) → σ → q.Answer × σ) (root path : String) (s : σ) :
    Dialogue.run respond (generate root path).run s =
      match respond .freshKey s with
      | (.error e, s) => (.error (.keyGeneration e), s)
      | (.ok k, s) =>
        match respond (.secret (.write (secretPath root path) entryName k.toHex)) s with
        | (.error e, s) => (.error (.secretWrite e.message), s)
        | (.ok (), s) => (.ok k, s) := by
  change Dialogue.run respond (.ask .freshKey _) s = _
  rw [Dialogue.run]
  rcases respond .freshKey s with ⟨_ | k, s₁⟩
  · rfl
  · change Dialogue.run respond (.ask (.secret (.write _ _ _)) _) s₁ = _
    rw [Dialogue.run]
    dsimp only
    rcases respond (.secret (.write (secretPath root path) entryName k.toHex)) s₁ with ⟨_ | _, s₂⟩ <;> rfl

lemma run_read (respond : (q : Call) → σ → q.Answer × σ) (root path : String) (s : σ) :
    Dialogue.run respond (read root path).run s =
      match respond (.secret (.read (secretPath root path) entryName)) s with
      | (.error e, s) => (.error (.secretRead e.message), s)
      | (.ok text, s) => (EncryptionKey.ofHex text, s) := by
  change Dialogue.run respond (.ask (.secret (.read _ _)) _) s = _
  rw [Dialogue.run]
  rcases respond (.secret (.read (secretPath root path) entryName)) s with ⟨_ | text, s₁⟩
  · rfl
  · change Dialogue.run respond (.done (EncryptionKey.ofHex text)) s₁ = _
    rw [Dialogue.run]

lemma read_of_generate (hr : Retains respond) (h : Dialogue.run respond (generate root path).run s = (.ok k, s')) :
    (Dialogue.run respond (read root path).run s').1 = .ok k := by
  rw [run_generate] at h
  split at h
  · cases h
  · next k₁ s₁ _ =>
    have hkept := hr s₁ (secretPath root path) entryName k₁.toHex
    split at h
    · cases h
    · next hwrite =>
      cases h
      rw [hwrite] at hkept
      specialize hkept rfl
      dsimp only at hkept
      rw [run_read]
      generalize respond (.secret (.read (secretPath root path) entryName)) s' = reply at hkept ⊢
      obtain ⟨text, s''⟩ := reply
      obtain rfl : text = .ok k.toHex := hkept
      dsimp only
      exact k.ofHex_toHex

lemma generate_read_of_freshKey {b : Backends} (hk : (b.respond .freshKey).1 = .ok k) (root path : String) :
    ∃ b', Dialogue.run Backends.respond (generate root path).run b = (.ok k, b') ∧
      Dialogue.run Backends.respond (read root path).run b' = (.ok k, b') := by
  rw [run_generate]
  generalize b.respond .freshKey = reply at hk ⊢
  obtain ⟨r, b₁⟩ := reply
  obtain rfl : r = .ok k := hk
  refine ⟨{ b₁ with secrets := b₁.secrets.write (secretPath root path) entryName k.toHex }, rfl, ?_⟩
  rw [run_read, b₁.respond_read_write]
  dsimp only
  rw [k.ofHex_toHex]

end Keys

/-- Blanks around the form of a key do not matter. A text is a key exactly if between its blanks it has an even number of
digits, which are then the form of the key but for their case. So a key is read back from where it was put. -/
theorem EncryptionKey.survives :
    (∀ (k : EncryptionKey) (front back : String), (∀ c ∈ front.toList, Text.isBlank c = true) →
      (∀ c ∈ back.toList, Text.isBlank c = true) → ofHex (front ++ k.toHex ++ back) = .ok k) ∧
    (∀ s : String, ∃ value, Text.Trims s value ∧
      ((∃ k, ofHex s = .ok k) ↔ Even value.length ∧ ∀ c ∈ value.toList, Text.Hex.IsDigit c) ∧
      (∀ k, ofHex s = .ok k → k.toHex = Text.lower value) ∧
      ∀ e, ofHex s = .error e → ∃ detail, e = .invalidKey detail) ∧
    (∀ (b : Backends) (root path : String) (k : EncryptionKey), (b.respond .freshKey).1 = .ok k →
      ∃ b', Dialogue.run Backends.respond (Keys.generate root path).run b = (.ok k, b') ∧
        Dialogue.run Backends.respond (Keys.read root path).run b' = (.ok k, b')) ∧
    ∀ {σ : Type} (respond : (q : Call) → σ → q.Answer × σ), Retains respond → ∀ root path k s s',
      Dialogue.run respond (Keys.generate root path).run s = (.ok k, s') →
        (Dialogue.run respond (Keys.read root path).run s').1 = .ok k := by
  refine ⟨fun k front back hfront hback => ?_, fun s => ?_, fun b root path k hk => ?_, ?_⟩
  · rw [ofHex_eq_of_trims (trims_toHex hfront hback), ofHex_toHex]
  · have htrims : Text.Trims s (Text.trim s) := Text.trim_eq_iff.mp rfl
    refine ⟨Text.trim s, htrims, ⟨?_, ?_⟩, fun k hk => ?_, fun e he => invalidKey_of_ofHex he⟩
    · rintro ⟨k, hk⟩
      exact digits_of_ofHex htrims hk
    · rintro ⟨heven, hdigits⟩
      obtain ⟨k, hk, -⟩ := ofHex_of_digits htrims hdigits heven
      exact ⟨k, hk⟩
    · obtain ⟨heven, hdigits⟩ := digits_of_ofHex htrims hk
      obtain ⟨k', hk', hwritten⟩ := ofHex_of_digits htrims hdigits heven
      obtain rfl := Except.ok.inj (hk.symm.trans hk')
      exact hwritten
  · exact Keys.generate_read_of_freshKey hk root path
  · exact fun respond hr root path k s s' h => Keys.read_of_generate hr h

theorem EncryptionKey.survives_padded :
    ofHex ("\t " ++ (⟨[10, 255]⟩ : EncryptionKey).toHex ++ "\u00a0") = .ok ⟨[10, 255]⟩ ∧
    (∃ k, ofHex " 0AFf\n" = .ok k ∧ k.toHex = "0aff") ∧ (∃ detail, ofHex "0 af" = .error (.invalidKey detail)) ∧
    ∃ b', Dialogue.run Backends.respond (Keys.generate "keys" "a").run (.withKeys [.ok ⟨[7]⟩]) = (.ok ⟨[7]⟩, b') ∧
      (Dialogue.run Backends.respond (Keys.read "keys" "a").run b').1 = .ok ⟨[7]⟩ := by
  obtain ⟨hpadded, htext, hmemory, hstore⟩ := survives
  refine ⟨hpadded _ _ _ (List.all_eq_true.mp (by decide)) (List.all_eq_true.mp (by decide)), ?_, ?_, ?_⟩
  · obtain ⟨value, htrims, hread, hwritten, -⟩ := htext " 0AFf\n"
    obtain rfl : "0AFf" = value := Text.trim_eq_iff.mpr htrims ▸ by decide
    obtain ⟨k, hk⟩ := hread.mpr ⟨by decide, List.all_iff_forall_prop.mp (by decide)⟩
    exact ⟨k, hk, hwritten k hk⟩
  · obtain ⟨value, htrims, hread, -, hrefused⟩ := htext "0 af"
    obtain rfl : "0 af" = value := Text.trim_eq_iff.mpr htrims ▸ by decide
    cases h : ofHex "0 af" with
    | ok k => exact absurd ((hread.mp ⟨k, h⟩).2 ' ' (by decide)) (by decide)
    | error e =>
      obtain ⟨detail, rfl⟩ := hrefused e h
      exact ⟨detail, rfl⟩
  · obtain ⟨b', hgenerate, -⟩ := hmemory (.withKeys [.ok ⟨[7]⟩]) "keys" "a" ⟨[7]⟩ rfl
    exact ⟨b', hgenerate, hstore _ Backends.retains _ _ _ _ _ hgenerate⟩

end ResumableUpload
