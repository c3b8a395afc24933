import ResumableUpload.Proofs.Upload.Secrecy

/-! What stands behind a record and behind an object: the one registration of the path, and a key that can be read. -/

namespace ResumableUpload.Upload

variable {policy : UploadPolicy} {forced : Prop} {adm : Request → Prop} {b : Backends} {t : Traffic} {path : String}

namespace Ledger

def enlisting : Ledger := backed (fun h => h.record.isSome) Exchange.registers

lemma enlisting_balanced (path : String) : enlisting.Balanced policy forced adm b path := by
  refine ⟨fun _ => rfl, fun _ _ _ => rfl, ?_⟩
  intro t r s s' h q a _ _ _ _ ht
  cases ht with
  | registered hr => simp [enlisting, backed, hr, Exchange.registers]
  | marked hr => simp [enlisting, backed, hr]
  | _ => simp [enlisting, backed]

end Ledger

namespace Law

def describing : Law where
  holding _ := True
  stage _ _ _ := True
  exchange x h := x.registers = true → x.request.chunk.isFirst = true ∧
    ∃ f, h.record = some f ∧ f.metadata = x.request.metadata

lemma describing_respects {h h' : Holding}
    (hr : ∀ f, h.record = some f → ∃ f', h'.record = some f' ∧ f'.metadata = f.metadata) :
    describing.Respects h h' := by
  refine ⟨fun _ _ _ => trivial, fun x hx hregisters => ?_⟩
  obtain ⟨hfirst, f, hf, hm⟩ := hx hregisters
  obtain ⟨f', hf', hm'⟩ := hr f hf
  exact ⟨hfirst, f', hf', hm'.trans hm⟩

lemma describing_kept : describing.Kept policy forced adm b path := by
  refine ⟨trivial, fun _ _ _ _ _ => trivial, ?_⟩
  intro t t' i f f' q a s s' _ ht hp hfits _ _ hturn
  generalize t'.holding policy path = h' at hturn ⊢
  cases hturn with
  | registered hr =>
    refine ⟨trivial, trivial, fun _ => ⟨hfits.2, _, rfl, rfl⟩, describing_respects fun f hf => ?_⟩
    cases hr.symm.trans hf
  | marked hr =>
    refine ⟨trivial, trivial, nofun, describing_respects fun f hf => ?_⟩
    cases hr.symm.trans hf
    exact ⟨_, rfl, rfl⟩
  | refused _ ha _ =>
    refine ⟨trivial, trivial, fun hx => ?_, .refl _⟩
    cases (Exchange.void_of_failure ha).1.symm.trans hx
  | deposited => exact ⟨trivial, trivial, nofun, describing_respects fun f hf => ⟨f, hf, rfl⟩⟩
  | stored _ _ => exact ⟨trivial, trivial, nofun, describing_respects fun f hf => ⟨f, hf, rfl⟩⟩
  | assembled _ _ _ _ => exact ⟨trivial, trivial, nofun, describing_respects fun f hf => ⟨f, hf, rfl⟩⟩
  | _ => exact ⟨trivial, trivial, nofun, .refl _⟩

end Law

namespace Course

lemma registration (h : Course policy forced adm b t) (hv : b.holding policy.keyRoot path = .vacant) {f : FileRecord}
    (hf : (t.holding policy path).record = some f) :
    ∃ x, (t.exchanges.filter fun x => x.path = path && x.registers) = [x] ∧ x.request.chunk.isFirst = true ∧
      f.metadata = x.request.metadata := by
  have hle := h.registers_le hv
  have hge : (t.holding policy path).record.isSome.toNat ≤ t.count path Exchange.registers :=
    h.backed_le hv rfl (Ledger.enlisting_balanced path)
  -- a record takes a registration, and a second one is refused
  have hone : (t.exchanges.filter fun x => x.path = path && x.registers).length = 1 := by
    rw [← List.countP_eq_length_filter]
    simp only [hf, Option.isNone_some, Option.isSome_some, Bool.toNat_false, Bool.toNat_true, Traffic.count] at hle hge
    omega
  obtain ⟨x, hx⟩ := List.length_eq_one_iff.mp hone
  have hmem : x ∈ t.exchanges.filter fun x => x.path = path && x.registers := by
    rw [hx]
    exact List.mem_singleton_self x
  obtain ⟨hmem, hkind⟩ := List.mem_filter.mp hmem
  simp only [Bool.and_eq_true, decide_eq_true_eq] at hkind
  obtain ⟨hfirst, f', hf', hm⟩ := (Law.describing_kept.holds h).exchanges x hmem hkind.1 hkind.2
  cases hf.symm.trans hf'
  exact ⟨x, hx, hfirst, hm⟩

lemma hasKey_of_object {root : String} (h : Course policy forced adm b t) (hk : policy.keyRoot = some root)
    (hv : b.holding policy.keyRoot path = .vacant) {o : StoredObject}
    (ho : (t.holding policy path).object = some o) : ∃ k, (t.holding policy path).HasKey k := by
  obtain ⟨parts, last, hj⟩ := (h.filled hv).object o ho
  obtain ⟨body, hm⟩ := Parts.mem_numbers.mp hj.member
  obtain ⟨r, hp, _, _, _, key, receipt, hx, _⟩ := hj.supplied _ hm
  obtain ⟨k, _, hkey⟩ := ((Law.locking_kept hk hv).holds h).exchanges _ hx hp key rfl
  exact ⟨k, hkey⟩

end Course

end ResumableUpload.Upload
