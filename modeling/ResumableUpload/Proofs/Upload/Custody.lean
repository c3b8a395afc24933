import ResumableUpload.Proofs.Upload.Ledger

/-! What happens at most once at a path. The one registration of a path gives its upload the right to make a
key and to bring the first part, and no object is assembled without the first part. -/

namespace ResumableUpload.Upload

variable {policy : UploadPolicy} {forced : Prop} {adm : Request → Prop} {b : Backends} {t t' : Traffic} {path : String}

def Agreed (path : String) (total : Nat) (r : Request) : Prop := r.path = path → r.chunk.total = total

lemma Traffic.Supplies.bounds {total : Nat} {e : Nat × Bytes} (h : t.Supplies path e)
    (hadm : ∀ r ∈ t.requests, Agreed path total r) : 1 ≤ e.1 ∧ e.1 ≤ total := by
  obtain ⟨r, hp, hn, hr, hin, _⟩ := h
  rw [← hn, ← hadm r hr hp]
  exact ⟨hin.1, hin.2.1⟩

namespace Ledger

def makesKey : Option Call → Bool
  | some .freshKey | some (.secret (.write ..)) => true
  | _ => false

def bringsFirst (r : Request) : Option Call → Bool
  | some (.storage (.put ..)) => r.chunk.isFirst
  | q => makesKey q

def exclusive (pending : Request → Option Call → Bool) (held : Holding → Nat) (spent : Exchange → Bool) : Ledger :=
  ⟨pending, held, spent, fun _ => false⟩

def backed (held : Holding → Bool) (issued : Exchange → Bool) : Ledger :=
  ⟨fun _ _ => false, fun h => (held h).toNat, fun _ => false, issued⟩

def registration : Ledger := exclusive (fun _ _ => false) (fun h => h.record.isNone.toNat) Exchange.registers

def keying : Ledger := exclusive (fun _ => makesKey) (fun h => h.record.isNone.toNat) Exchange.storesKey

def opening : Ledger :=
  exclusive bringsFirst (fun h => h.record.isNone.toNat + (decide (1 ∈ h.parts.numbers)).toNat) Exchange.completes

def marking : Ledger := exclusive (fun _ _ => false) (fun h => (!h.uploaded).toNat) Exchange.marks

def recording : Ledger := backed Holding.uploaded Exchange.marks

def assembly : Ledger := backed (fun h => h.object.isSome) Exchange.completes

def depositing : Ledger := backed (fun h => h.key.isSome) Exchange.storesKey

lemma registration_balanced (path : String) : registration.Balanced policy forced adm b path := by
  refine ⟨fun _ => rfl, fun _ _ _ => rfl, ?_⟩
  intro t r s s' h q a _ _ _ _ ht
  cases ht with
  | registered hr => simp [registration, exclusive, hr, Exchange.registers]
  | marked hr => simp [registration, exclusive, hr, Exchange.registers]
  | refused _ ha _ => simp [registration, exclusive, (Exchange.void_of_failure ha).1]
  | _ => simp [registration, exclusive, Exchange.registers]

lemma assembly_balanced (path : String) : assembly.Balanced policy forced adm b path := by
  refine ⟨fun _ => rfl, fun _ _ _ => rfl, ?_⟩
  intro t r s s' h q a _ _ _ _ ht
  cases ht with
  | assembled _ _ _ _ => simp [assembly, backed, Exchange.completes]
  | _ => simp [assembly, backed]

lemma depositing_balanced (path : String) : depositing.Balanced policy forced adm b path := by
  refine ⟨fun _ => rfl, fun _ _ _ => rfl, ?_⟩
  intro t r s s' h q a _ _ _ _ ht
  cases ht with
  | deposited => simp [depositing, backed, Exchange.storesKey]
  | _ => simp [depositing, backed]

lemma marking_balanced (path : String) : marking.Balanced policy forced adm b path := by
  refine ⟨fun _ => rfl, fun _ _ _ => rfl, ?_⟩
  intro t r s s' h q a _ _ _ _ ht
  cases ht with
  | registered hr => simp [marking, exclusive, Holding.uploaded, hr, Exchange.marks]
  | marked hr => simp [marking, exclusive, Holding.uploaded, hr, Exchange.marks]
  | refused _ ha _ => simp [marking, exclusive, Holding.uploaded, (Exchange.void_of_failure ha).2.2.2]
  | _ => simp [marking, exclusive, Holding.uploaded, Exchange.marks]

lemma recording_balanced (path : String) : recording.Balanced policy forced adm b path := by
  refine ⟨fun _ => rfl, fun _ _ _ => rfl, ?_⟩
  intro t r s s' h q a _ _ _ _ ht
  cases ht with
  | registered _ => simp [recording, backed, Holding.uploaded]
  | marked hr => simp [recording, backed, Holding.uploaded, Exchange.marks]
  | _ => simp [recording, backed, Holding.uploaded]

section

variable {r : Request}

lemma makesKey_of_bringsFirst {q : Option Call} (h : bringsFirst r q = false) : makesKey q = false := by
  unfold bringsFirst at h
  split at h
  · rfl
  · exact h

lemma not_bringsFirst_entry (h : r.chunk.isFirst = false) :
    bringsFirst r ((Stage.entry policy r).question r) = false :=
  Stage.entry_of (P := fun s => bringsFirst r (s.question r) = false) (fun _ => rfl) (fun _ _ => h) fun _ _ _ => rfl

lemma not_bringsFirst_start : bringsFirst r ((Stage.start policy r).question r) = false :=
  Stage.start_of (P := fun s => bringsFirst r (s.question r) = false) (fun _ => rfl) (fun _ => rfl) (fun _ => rfl)
    (fun _ hf => hf) fun _ _ _ => rfl

lemma not_bringsFirst_assembled (receipt : PartReceipt) :
    bringsFirst r ((Stage.assembled policy receipt).question r) = false :=
  Stage.assembled_of (P := fun s => bringsFirst r (s.question r) = false) (fun _ => rfl) fun _ => rfl

end

lemma keying_balanced (path : String) : keying.Balanced policy forced adm b path := by
  refine ⟨fun _ => rfl, fun _ _ _ => makesKey_of_bringsFirst not_bringsFirst_start, ?_⟩
  intro t r s s' h q a _ _ _ hs ht
  cases ht with
  | missing _ => simp [keying, exclusive, makesKey_of_bringsFirst (not_bringsFirst_entry hs.2.1), Exchange.storesKey]
  | registered hr =>
    have := Bool.toNat_le (makesKey ((Stage.keyed policy r).question r))
    simp [keying, exclusive, hr, Exchange.storesKey]
    omega
  | drawn => simp [keying, exclusive, makesKey, Stage.question, Exchange.storesKey]
  | deposited => simp [keying, exclusive, makesKey, Stage.question, Exchange.storesKey]
  | assembled _ _ _ _ =>
    simp [keying, exclusive, makesKey_of_bringsFirst (not_bringsFirst_assembled _), Exchange.storesKey]
  | marked hr => simp [keying, exclusive, makesKey, Stage.question, hr, Exchange.storesKey, Stage.returned]
  | refused _ ha _ => simp [keying, exclusive, makesKey, Stage.question, (Exchange.void_of_failure ha).2.1]
  | _ => simp [keying, exclusive, makesKey, Stage.question, Exchange.storesKey, Stage.returned]

lemma toNat_mem_insert (p : Parts) (n m : Nat) (body : Bytes) :
    (decide (m ∈ (p.insert n body).numbers)).toNat ≤ (decide (n = m)).toNat + (decide (m ∈ p.numbers)).toNat := by
  simp only [Parts.mem_numbers_insert, eq_comm (a := m), Bool.decide_or]
  cases decide (n = m) <;> cases decide (m ∈ p.numbers) <;> simp

lemma one_mem_of_bounds {parts : Parts} {c : Chunk} (hc : c.InRange) (hcount : c.total ≤ parts.count)
    (hn : ∀ n ∈ parts.numbers, 1 ≤ n ∧ n ≤ c.total) : 1 ∈ parts.numbers := by
  rw [Parts.numbers_eq_range hcount hn, List.mem_range'_1]
  have := hc.1.trans hc.2.1
  omega

lemma one_mem_of_full {total : Nat} {parts : Parts} {c : Chunk} {body : Bytes}
    (hadm : ∀ r ∈ t.requests, Agreed path total r) (hs : ∀ e ∈ parts.entries, t.Supplies path e) (hc : c.InRange)
    (ht : c.total = total) (hcount : c.total ≤ (parts.insert c.current body).count) :
    1 ∈ (parts.insert c.current body).numbers := by
  refine one_mem_of_bounds hc hcount fun n hn => ?_
  rcases Parts.mem_numbers_insert.mp hn with rfl | hn
  · exact ⟨hc.1, hc.2.1⟩
  · obtain ⟨body, hb⟩ := Parts.mem_numbers.mp hn
    rw [ht]
    exact (hs _ hb).bounds hadm

lemma opening_turn {r : Request} {s s' : Stage} {h h' : Holding} {q : Call} {a : q.Answer} (hs : s.Fits policy r)
    (ht : Turn policy r forced s h q a s' h')
    (hone : Exchange.completes ⟨r, q, a⟩ = true → r.chunk.InRange → ∀ body,
      r.chunk.total ≤ (h.parts.insert r.chunk.current body).count →
        1 ∈ (h.parts.insert r.chunk.current body).numbers) : opening.Pays r h q a s' h' := by
  -- only an object that is put together can take the first part away, and by `hone` it does
  rw [Pays]
  cases ht with
  | missing _ => simp [opening, exclusive, not_bringsFirst_entry hs.2.1, Exchange.completes]
  | registered hn =>
    have := Bool.toNat_le (bringsFirst r ((Stage.keyed policy r).question r))
    simp [opening, exclusive, hn, Exchange.completes]
    omega
  | drawn => simp [opening, exclusive, bringsFirst, makesKey, Stage.question, Exchange.completes]
  | deposited =>
    have := Bool.toNat_le r.chunk.isFirst
    simp [opening, exclusive, bringsFirst, makesKey, Stage.question, Exchange.completes]
    omega
  | fetched _ _ => simp [opening, exclusive, bringsFirst, makesKey, Stage.question, hs.2.1, Exchange.completes]
  | @stored _ _ body _ _ _ =>
    have := toNat_mem_insert h.parts r.chunk.current 1 body
    simp [opening, exclusive, bringsFirst, Stage.question, Exchange.completes, makesKey, Stage.returned, Chunk.isFirst]
    omega
  | @assembled _ key _ _ _ _ hparts hcount _ =>
    have hput : bringsFirst r (some (.storage (.put r.path r.chunk r.payload key))) = r.chunk.isFirst := rfl
    rcases Parts.mem_numbers_insert.mp (hone rfl hs.1 _ (hparts ▸ hcount)) with hm | hm
    · simp [opening, exclusive, not_bringsFirst_assembled, hput, Exchange.completes, Chunk.isFirst, hm.symm]
      omega
    · simp [opening, exclusive, not_bringsFirst_assembled, hput, Exchange.completes, hm]
  | marked hm => simp [opening, exclusive, bringsFirst, makesKey, Stage.question, hm, Exchange.completes, Stage.returned]
  | refused _ ha _ => simp [opening, exclusive, bringsFirst, makesKey, Stage.question, (Exchange.void_of_failure ha).2.2.1]
  | _ => simp [opening, exclusive, bringsFirst, makesKey, Stage.question, Exchange.completes, Stage.returned]

lemma opening_balanced {total : Nat} (hv : b.holding policy.keyRoot path = .vacant) :
    opening.Balanced policy forced (Agreed path total) b path := by
  refine ⟨fun _ => rfl, fun _ _ _ => not_bringsFirst_start, ?_⟩
  intro t r s s' h q a hc hr hp hs ht
  -- all numbers are there, so the right to assemble is spent by the first chunk, or by the part that it left
  exact opening_turn hs ht fun _ hin _ hcount => one_mem_of_full hc.admitted (hc.filled hv).parts hin (hr hp) hcount

end Ledger

namespace Course

variable {pending : Request → Option Call → Bool} {held : Holding → Nat} {spent : Exchange → Bool}

lemma exclusive_le (h : Course policy forced adm b t) (hv : b.holding policy.keyRoot path = .vacant)
    (hl : (Ledger.exclusive pending held spent).Balanced policy forced adm b path) :
    held (t.holding policy path) + t.count path spent ≤ held .vacant := by
  have hle := hl.total_le h
  have hnever : t.count path (fun _ => false) = 0 := by simp [Traffic.count]
  simp only [Ledger.total, Ledger.exclusive, hv, hnever] at hle
  omega

lemma backed_le {held : Holding → Bool} {issued : Exchange → Bool} (h : Course policy forced adm b t)
    (hv : b.holding policy.keyRoot path = .vacant) (hn : held .vacant = false)
    (hl : (Ledger.backed held issued).Balanced policy forced adm b path) :
    (held (t.holding policy path)).toNat ≤ t.count path issued := by
  have hle := hl.total_le h
  simp only [Ledger.total, Ledger.backed, hv, hn, Bool.toNat_false] at hle
  omega

section

variable (h : Course policy forced adm b t) (hv : b.holding policy.keyRoot path = .vacant)
include h hv

lemma registers_le : (t.holding policy path).record.isNone.toNat + t.count path Exchange.registers ≤ 1 :=
  h.exclusive_le hv (Ledger.registration_balanced path)

lemma storesKey_le : t.count path Exchange.storesKey ≤ 1 := by
  have hle : _ ≤ 1 := h.exclusive_le hv (Ledger.keying_balanced path)
  omega

lemma marks_le : t.count path Exchange.marks ≤ 1 := by
  have hle : _ ≤ 1 := h.exclusive_le hv (Ledger.marking_balanced path)
  omega

lemma uploaded_le : (t.holding policy path).uploaded.toNat ≤ t.count path Exchange.marks :=
  h.backed_le hv rfl (Ledger.recording_balanced path)

lemma object_le : (t.holding policy path).object.isSome.toNat ≤ t.count path Exchange.completes :=
  h.backed_le hv rfl (Ledger.assembly_balanced path)

lemma key_le : (t.holding policy path).key.isSome.toNat ≤ t.count path Exchange.storesKey :=
  h.backed_le hv rfl (Ledger.depositing_balanced path)

end

section

variable {total : Nat} (hv : b.holding policy.keyRoot path = .vacant) (h : Course policy forced (Agreed path total) b t)
include hv h

lemma opening_le :
    (t.holding policy path).record.isNone.toNat + (decide (1 ∈ (t.holding policy path).parts.numbers)).toNat +
      t.count path Exchange.completes ≤ 1 := h.exclusive_le hv (Ledger.opening_balanced hv)

lemma completes_le : (t.holding policy path).record.isNone.toNat + t.count path Exchange.completes ≤ 1 := by
  have hle := h.opening_le hv
  omega

lemma record_of_first (hm : 1 ∈ (t.holding policy path).parts.numbers) :
    (t.holding policy path).record.isSome = true := by
  have hle := h.opening_le hv
  rw [decide_eq_true hm] at hle
  cases hr : (t.holding policy path).record with
  | some f => rfl
  | none =>
    simp only [hr, Option.isNone_none, Bool.toNat_true] at hle
    omega

lemma record_of_object (ho : (t.holding policy path).object.isSome = true) :
    (t.holding policy path).record.isSome = true := by
  have hle := h.completes_le hv
  have hobject := h.object_le hv
  rw [ho] at hobject
  cases hr : (t.holding policy path).record with
  | some f => rfl
  | none =>
    simp only [hr, Option.isNone_none, Bool.toNat_true] at hle hobject
    omega

lemma first_spent_of_object (ho : (t.holding policy path).object.isSome = true) :
    1 ∉ (t.holding policy path).parts.numbers := by
  -- the object has spent the only right to bring the first part
  have hle := h.opening_le hv
  have hobject := h.object_le hv
  rw [ho] at hobject
  intro hm
  simp only [decide_eq_true hm, Bool.toNat_true] at hle hobject
  omega

end

end Course

end ResumableUpload.Upload
