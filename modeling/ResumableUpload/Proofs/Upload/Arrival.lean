import ResumableUpload.Proofs.Bytes
import ResumableUpload.Proofs.Upload.Sending

/-! The chunks of a new file, which come one after the other and once each. -/

namespace ResumableUpload

open Upload

variable {policy : UploadPolicy} {key : Option EncryptionKey} {payloads : List Bytes} {m : FileMetadata} {n : Nat}

structure Holding.Awaits (policy : UploadPolicy) (key : Option EncryptionKey) (payloads : List Bytes)
    (m : FileMetadata) (n : Nat) (h : Holding) : Prop where
  gathering : h.Gathering m n
  opens : h.Opens policy key
  parts : ∀ e ∈ h.parts.entries, StandsFor key payloads e
  count : h.parts.count ≤ n

structure Holding.Completed (policy : UploadPolicy) (key : Option EncryptionKey) (payloads : List Bytes)
    (m : FileMetadata) (h : Holding) : Prop where
  opens : h.Opens policy key
  parts : h.parts = ∅
  object : ∃ o, h.object = some o ∧ o.MadeOf key payloads ∧
    h.record = some ⟨m, .uploaded, some (ETag.unquote o.etag)⟩

def Backends.Awaits (policy : UploadPolicy) (key : Option EncryptionKey) (payloads : List Bytes) (m : FileMetadata)
    (b : Backends) : Nat → Prop
  | 0 => b.holding policy.keyRoot m.path = .vacant ∧ b.Provides policy key
  | n + 1 => (b.holding policy.keyRoot m.path).Awaits policy key payloads m (n + 1)

lemma Backends.awaits_start {keys : List (Except String EncryptionKey)} (hk : (withKeys keys).Provides policy key)
    (payloads : List Bytes) (m : FileMetadata) : (withKeys keys).Awaits policy key payloads m 0 :=
  ⟨holding_withKeys _ _ _, hk⟩

variable {b : Backends} {r : Request}

lemma Backends.Awaits.first (ha : b.Awaits policy key payloads m 0) (hs : Sendable key payloads)
    (hr : r.Brings m.path payloads 0) (hm : r.metadata = m) :
    (1 < payloads.length ∧ ∃ h, r.Leaves policy b (.ok .continuing) h ∧ h.Awaits policy key payloads m 1) ∨
      payloads.length = 1 ∧ ∃ h, r.Leaves policy b (.ok .completed) h ∧ h.Completed policy key payloads m := by
  obtain ⟨hvacant, hk⟩ := ha
  obtain ⟨body, hb⟩ := hs.body r.chunk r.payload
  have hpos : 0 < payloads.length := (List.getElem?_eq_some_iff.mp hr.payload).1
  have hfirst : r.chunk.isFirst = true := decide_eq_true hr.current
  have hv : b.holding policy.keyRoot r.path = .vacant := by rw [hr.path, hvacant]
  have hparts : ∀ e ∈ ((∅ : Parts).insert r.chunk.current body).entries, StandsFor key payloads e :=
    hr.insert_standsFor hb nofun
  rcases Nat.lt_or_eq_of_le hpos with hlong | hone
  · have hleaves := Request.leaves_opened policy (hr.inRange hs) hfirst hv hk (hr.sizeAdmissible hs) hb
      (by rwa [hr.total])
    refine .inl ⟨hlong, _, hleaves, ⟨⟨rfl, ⟨none, by rw [hm]⟩, ?_⟩, .of_toHex hk rfl, hparts, Nat.le_refl 1⟩⟩
    intro i hpos hi
    obtain rfl : i = 1 := Nat.le_antisymm hi hpos
    exact Parts.mem_numbers_insert.mpr (.inl hr.current.symm)
  · have hleaves := Request.leaves_whole policy (hr.inRange hs) hfirst hv hk (hr.sizeAdmissible hs) hb
      (by rw [hr.total]; exact Nat.le_of_eq hone.symm) rfl
    refine .inr ⟨hone.symm, _, hleaves, .of_toHex hk rfl, rfl, _, rfl, ?_, by rw [hm]⟩
    exact Parts.madeOf_of_standsFor hparts (Nat.le_of_eq hone.symm) _

theorem Backends.Awaits.next (ha : b.Awaits policy key payloads m n) (hs : Sendable key payloads)
    (hr : r.Brings m.path payloads n) (hm : r.metadata = m) :
    (n + 1 < payloads.length ∧
        ∃ h, r.Leaves policy b (.ok .continuing) h ∧ h.Awaits policy key payloads m (n + 1)) ∨
      payloads.length = n + 1 ∧ ∃ h, r.Leaves policy b (.ok .completed) h ∧ h.Completed policy key payloads m := by
  cases n with
  | zero => exact ha.first hs hr hm
  | succ n =>
    obtain ⟨hg, hopens, hp, hcount⟩ := ha
    have hlast : n + 1 < payloads.length := (List.getElem?_eq_some_iff.mp hr.payload).1
    obtain ⟨body, hbody, ⟨hlt, hg', hl⟩ | ⟨hge, o, hmade, hl⟩⟩ :=
      hg.next rfl (Nat.le_add_left 1 n) hopens hp hs hr
    · have hlong : n + 2 < payloads.length := by
        by_contra hle
        have hall := Parts.le_count fun i (hi : i < payloads.length) =>
          hg'.numbers (i + 1) (Nat.le_add_left 1 i) (by omega)
        exact absurd hlt (Nat.not_lt.mpr hall)
      have hparts : ∀ e ∈ ((b.holding policy.keyRoot m.path).parts.insert (n + 2) body).entries,
          StandsFor key payloads e := by
        intro e he
        rcases Parts.mem_insert he with rfl | he
        · exact hbody
        · exact hp e he
      refine .inl ⟨hlong, _, hl, hg', hopens.congr rfl, hparts, ?_⟩
      exact (Parts.count_insert_le _ _ _).trans (Nat.succ_le_succ hcount)
    · have hle := Parts.count_insert_le (b.holding policy.keyRoot m.path).parts (n + 1 + 1) body
      refine .inr ⟨by omega, _, hl, hopens.congr rfl, rfl, o, rfl, hmade, rfl⟩

end ResumableUpload
