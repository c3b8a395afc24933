import ResumableUpload.Proofs.Upload.Secrecy

/-! Bytes and records. The first chunk of a file is stored after its registration, and any other chunk of an encrypted
file under the key that comes with it. Where nothing is encrypted, a later chunk is stored without a record. -/

namespace ResumableUpload.Upload

variable {policy : UploadPolicy} {forced : Prop} {adm : Request → Prop} {b : Backends} {t : Traffic} {path : String}

def Stage.PastRegistration : Stage → Prop
  | draw _ | deposit .. | put _ => True
  | _ => False

namespace Law

def enrolling : Law where
  holding _ := True
  stage r s h := r.chunk.isFirst = true → s.PastRegistration → h.record.isSome = true
  exchange x h := x.request.chunk.isFirst = true → x.storedUnder.isSome = true → h.record.isSome = true

lemma enrolling_respects {h h' : Holding} (hr : h.record.isSome = true → h'.record.isSome = true) :
    enrolling.Respects h h' :=
  ⟨fun _ _ hs hf hp => hr (hs hf hp), fun _ hx hf hp => hr (hx hf hp)⟩

lemma enrolling_entry (r : Request) (h : Holding) : enrolling.stage r (.entry policy r) h :=
  Stage.entry_of (P := (enrolling.stage r · h)) (fun _ _ hp => hp.elim) (fun _ hl hf => by rw [hl] at hf; cases hf)
    fun _ _ _ _ hp => hp.elim

lemma enrolling_start (r : Request) (h : Holding) : enrolling.stage r (.start policy r) h :=
  Stage.start_of_position (P := (enrolling.stage r · h)) (fun _ _ _ hp => hp.elim) (fun _ _ _ hp => hp.elim)
    fun _ _ => enrolling_entry r h

lemma enrolling_kept : enrolling.Kept policy forced adm b path := by
  refine ⟨trivial, fun r h _ _ _ => enrolling_start r h, ?_⟩
  intro t t' i f f' q a s s' hc ht hp hfits _ hs hturn
  generalize t'.holding policy path = h' at hturn ⊢
  cases hturn with
  | missing _ => exact ⟨trivial, enrolling_entry _ _, fun _ => nofun, .refl _⟩
  | registered _ => exact ⟨trivial, fun _ _ => rfl, fun _ => nofun, enrolling_respects fun _ => rfl⟩
  | drawn => exact ⟨trivial, fun hf _ => hs hf trivial, fun _ => nofun, .refl _⟩
  | deposited => exact ⟨trivial, fun hf _ => hs hf trivial, fun _ => nofun, enrolling_respects id⟩
  | fetched _ _ =>
    refine ⟨trivial, fun hf => ?_, fun _ => nofun, .refl _⟩
    cases hfits.2.1.symm.trans hf
  | stored _ _ => exact ⟨trivial, fun _ hp => hp.elim, fun hf _ => hs hf trivial, enrolling_respects id⟩
  | assembled _ _ _ _ =>
    refine ⟨trivial, ?_, fun hf _ => hs hf trivial, enrolling_respects id⟩
    exact Stage.assembled_of (P := (enrolling.stage f.request · _)) (fun _ _ hp => hp.elim) fun _ _ hp => hp.elim
  | marked _ => exact ⟨trivial, fun _ hp => hp.elim, fun _ => nofun, enrolling_respects fun _ => rfl⟩
  | refused _ ha _ =>
    refine ⟨trivial, fun _ hp => hp.elim, fun _ hx => ?_, .refl _⟩
    rw [Exchange.storedUnder_of_failure ha] at hx
    cases hx
  | _ => exact ⟨trivial, fun _ hp => hp.elim, fun _ => nofun, .refl _⟩

end Law

namespace Course

lemma record_of_key (h : Course policy forced adm b t) (hv : b.holding policy.keyRoot path = .vacant)
    (hk : (t.holding policy path).key.isSome = true) : (t.holding policy path).record.isSome = true := by
  have hkey := h.key_le hv
  have hle : (t.holding policy path).record.isNone.toNat + t.count path Exchange.storesKey ≤ 1 :=
    h.exclusive_le hv (Ledger.keying_balanced path)
  rw [hk] at hkey
  cases hr : (t.holding policy path).record with
  | some f => rfl
  | none =>
    simp only [hr, Option.isNone_none, Bool.toNat_true] at hle hkey
    omega

lemma record_of_first_part (h : Course policy forced adm b t) {body : Bytes} (hs : t.Supplies path (1, body)) :
    (t.holding policy path).record.isSome = true := by
  obtain ⟨r, hp, hn, -, -, key, receipt, hx, -⟩ := hs
  have hl : Law.enrolling.Holds policy path t := Law.enrolling_kept.holds h
  exact hl.exchanges _ hx hp (decide_eq_true hn) rfl

lemma record_of_encrypted {root : String} (h : Course policy forced adm b t)
    (hv : b.holding policy.keyRoot path = .vacant) (hk : policy.keyRoot = some root) {e : Nat × Bytes}
    (hs : t.Supplies path e) : (t.holding policy path).record.isSome = true := by
  apply h.record_of_key hv
  rw [Traffic.holding_key hk]
  exact (hs.enciphered hk ((Law.locking_kept hk hv).holds h)).entry

lemma two_le_of_unrecorded (h : Course policy forced adm b t) (hr : (t.holding policy path).record = none)
    {e : Nat × Bytes} (hs : t.Supplies path e) : 2 ≤ e.1 := by
  obtain ⟨n, body⟩ := e
  have hone : n ≠ 1 := by
    rintro rfl
    have hsome := h.record_of_first_part hs
    rw [hr] at hsome
    cases hsome
  obtain ⟨r, -, hn, -, hin, -⟩ := hs
  have hnumber : r.chunk.current = n := hn
  have hpos := hin.1
  omega

end Course

/-- The record that stands behind what is stored for a path. Without one there can only be parts of later chunks. -/
structure Traffic.Enrolled (policy : UploadPolicy) (t : Traffic) (path : String) : Prop where
  encrypted : policy.keyRoot.isSome = true →
    (t.holding policy path).parts.entries ≠ [] ∨ (t.holding policy path).object.isSome = true →
    (t.holding policy path).record.isSome = true
  first : ∀ body, t.Supplies path (1, body) → (t.holding policy path).record.isSome = true
  whole : ∀ total, (∀ r ∈ t.requests, Agreed path total r) → (t.holding policy path).object.isSome = true →
    (t.holding policy path).record.isSome = true
  waiting : (t.holding policy path).record = none → ∀ n ∈ (t.holding policy path).parts.numbers, 2 ≤ n
  assembled : (t.holding policy path).record = none → ∀ o, (t.holding policy path).object = some o →
    ∃ parts last, t.Joins path o parts last ∧ ∀ n ∈ parts.numbers, 2 ≤ n

theorem Reachable.enrolled (hv : b.holding policy.keyRoot path = .vacant) (h : Reachable policy b t) :
    t.Enrolled policy path := by
  have hc := h.course (fun _ _ => trivial : ∀ r ∈ t.requests, (fun _ => True) r)
  have hf := hc.filled hv
  refine ⟨?_, fun body hs => hc.record_of_first_part hs, ?_, ?_, ?_⟩
  · intro hk hstored
    obtain ⟨root, hroot⟩ := Option.isSome_iff_exists.mp hk
    rcases hstored with hne | ho
    · obtain ⟨e, he⟩ := List.exists_mem_of_ne_nil _ hne
      exact hc.record_of_encrypted hv hroot (hf.parts e he)
    · obtain ⟨o, ho⟩ := Option.isSome_iff_exists.mp ho
      obtain ⟨parts, last, hj⟩ := hf.object o ho
      obtain ⟨body, hm⟩ := Parts.mem_numbers.mp hj.member
      exact hc.record_of_encrypted hv hroot (hj.supplied _ hm)
  · intro total ha ho
    exact (h.course ha).record_of_object hv ho
  · intro hr n hn
    obtain ⟨body, hm⟩ := Parts.mem_numbers.mp hn
    exact hc.two_le_of_unrecorded hr (hf.parts _ hm)
  · intro hr o ho
    obtain ⟨parts, last, hj⟩ := hf.object o ho
    refine ⟨parts, last, hj, fun n hn => ?_⟩
    obtain ⟨body, hm⟩ := Parts.mem_numbers.mp hn
    exact hc.two_le_of_unrecorded hr (hj.supplied _ hm)

theorem overtaken_enrolled : ∃ t, Reachable ⟨some "keys", .part⟩ (.withKeys []) t ∧
    t.requests = [.least 1 2, .latter, .latter] ∧ (t.holding ⟨some "keys", .part⟩ "a").object.isSome = true ∧
    (t.holding ⟨some "keys", .part⟩ "a").parts.numbers = [2] ∧ t.Enrolled ⟨some "keys", .part⟩ "a" := by
  obtain ⟨t, hs, hf, hparts, hobject, -⟩ := Request.exists_overtaken ⟨some "keys", .part⟩
  refine ⟨t, hs.reachable, ?_, hobject, hparts, hs.reachable.enrolled rfl⟩
  rw [Traffic.requests, hf]
  rfl

def sentAhead : Traffic := .played ⟨none, .part⟩ [.plain "a" 2 2 ⟨#[8]⟩] [0, 0]

theorem stored_without_record : ¬ ∀ policy b t path, b.holding policy.keyRoot path = .vacant → Reachable policy b t →
    (t.holding policy path).parts.entries ≠ [] ∨ (t.holding policy path).object.isSome = true →
    (t.holding policy path).record.isSome = true := by
  intro h
  have hs : Smooth ⟨none, .part⟩ (.withKeys []) sentAhead := .played _ _
  have hparts : (sentAhead.holding ⟨none, .part⟩ "a").parts.entries = [(2, ⟨#[8]⟩)] := rfl
  have hrecord := h _ _ sentAhead "a" rfl hs.reachable (.inl (by rw [hparts]; exact List.cons_ne_nil _ _))
  have hnone : (sentAhead.holding ⟨none, .part⟩ "a").record = none := rfl
  rw [hnone] at hrecord
  cases hrecord

end ResumableUpload.Upload
