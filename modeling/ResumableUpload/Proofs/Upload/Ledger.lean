import ResumableUpload.Proofs.Upload.Contents

/-! Rights that uploads for one path pass on to each other through the backends. A ledger says which calls
under way, which holdings and which exchanges carry such a right, and which exchanges issue a new one. -/

namespace ResumableUpload.Upload

variable {policy : UploadPolicy} {forced : Prop} {adm : Request → Prop} {b : Backends} {t t' : Traffic} {path : String}

structure Ledger where
  pending : Request → Option Call → Bool
  held : Holding → Nat
  spent : Exchange → Bool
  issued : Exchange → Bool

namespace Ledger

variable (l : Ledger)

def owes (path : String) (f : Flight) : Bool := f.path = path && l.pending f.request f.question

def total (policy : UploadPolicy) (t : Traffic) (path : String) : Nat :=
  t.flights.countP (l.owes path) + l.held (t.holding policy path) + t.count path l.spent

def Pays (r : Request) (h : Holding) (q : Call) (a : q.Answer) (s' : Stage) (h' : Holding) : Prop :=
  (l.pending r (s'.question r)).toNat + l.held h' + (l.spent ⟨r, q, a⟩).toNat ≤
    (l.pending r (some q)).toNat + l.held h + (l.issued ⟨r, q, a⟩).toNat

structure Balanced (policy : UploadPolicy) (forced : Prop) (adm : Request → Prop) (b : Backends) (path : String) :
    Prop where
  idle : ∀ r, l.pending r none = false
  launch : ∀ r, adm r → r.path = path → l.pending r ((Stage.start policy r).question r) = false
  turn : ∀ {t : Traffic} {r : Request} {s s' : Stage} {h : Holding} {q : Call} {a : q.Answer},
    Course policy forced adm b t → adm r → r.path = path → s.Fits policy r →
    Turn policy r forced s (t.holding policy path) q a s' h →
    (l.pending r (s'.question r)).toNat + l.held h + (l.spent ⟨r, q, a⟩).toNat ≤
      (l.pending r (some q)).toNat + l.held (t.holding policy path) + (l.issued ⟨r, q, a⟩).toNat

end Ledger

lemma countP_set_add {α : Type} {l : List α} {i : Nat} {a c : α} (p : α → Bool) (h : l[i]? = some a) :
    (l.set i c).countP p + (p a).toNat = l.countP p + (p c).toNat := by
  obtain ⟨hi, rfl⟩ := List.getElem?_eq_some_iff.mp h
  have hpos : p l[i] = true → 0 < l.countP p := fun hp =>
    List.countP_pos_iff.mpr ⟨_, List.getElem_mem hi, hp⟩
  rw [List.countP_set hi]
  cases hp : p l[i] with
  | false => cases p c <;> simp
  | true =>
    have := hpos hp
    cases p c <;> simp <;> omega

lemma Traffic.Turns.count {i : Nat} {f f' : Flight} {q : Call} {a : q.Answer}
    (h : t.Turns policy forced i f f' q a t') (path : String) (kind : Exchange → Bool) :
    t'.count path kind = t.count path kind + (f.path = path && kind ⟨f.request, q, a⟩).toNat := by
  rw [Traffic.count]
  rw [h.exchanges, List.countP_cons]
  exact congrArg _ (Bool.cond_eq_ite ..).symm

lemma Traffic.Turns.count_eq_zero {i : Nat} {f f' : Flight} {q : Call} {a : q.Answer} {kind : Exchange → Bool}
    (h : t.Turns policy forced i f f' q a t') (hp : f.path = path) (hx : kind ⟨f.request, q, a⟩ = true)
    (hle : t'.count path kind ≤ 1) : t.count path kind = 0 := by
  rw [h.count, hx, hp] at hle
  simpa using hle

lemma Ledger.total_step {l : Ledger} (hidle : ∀ r, l.pending r none = false)
    (hlaunch : ∀ r, adm r → r.path = path → l.pending r ((Stage.start policy r).question r) = false)
    (hst : t.Staged policy) (hp : Progress policy forced adm t t')
    (hturn : ∀ {i : Nat} {f f' : Flight} {q : Call} {a : q.Answer} {s s' : Stage},
      t.Turns policy forced i f f' q a t' → f.path = path → s.Fits policy f.request →
      Turn policy f.request forced s (t.holding policy path) q a s' (t'.holding policy path) →
      l.Pays f.request (t.holding policy path) q a s' (t'.holding policy path)) :
    l.total policy t' path + t.count path l.issued ≤ l.total policy t path + t'.count path l.issued := by
  cases hp with
  | launch r hr =>
    have hn : l.owes path ⟨r, some (r.procedure policy)⟩ = false := by
      rw [owes]
      by_cases hpath : r.path = path
      · rw [(Flight.stands_launch policy r).question]
        simp [Flight.path, hpath, hlaunch r hr hpath]
      · simp [Flight.path, hpath]
    have hf : (t.launch policy r).flights.countP (l.owes path) = t.flights.countP (l.owes path) := by
      simp [Traffic.launch, List.countP_append, hn]
    exact Nat.add_le_add_right (by rw [total, total, hf]; exact Nat.le_refl _) _
  | @drop i f q _ hi hq =>
    have hn : l.owes path ⟨f.request, none⟩ = false := by
      rw [owes]
      rw [show Flight.question ⟨f.request, none⟩ = none from rfl, hidle]
      simp
    have hf : (t.drop i f.request).flights.countP (l.owes path) ≤ t.flights.countP (l.owes path) := by
      have := countP_set_add (c := ⟨f.request, none⟩) (l.owes path) hi
      rw [hn] at this
      simp only [Traffic.drop, Bool.toNat_false] at this ⊢
      omega
    apply Nat.add_le_add_right
    exact Nat.add_le_add_right (Nat.add_le_add_right hf _) _
  | @turn i f f' q a t' ht =>
    have hflights := countP_set_add (c := f') (l.owes path) ht.here
    rw [← ht.flights] at hflights
    have hspent := ht.count path l.spent
    have hissued := ht.count path l.issued
    have hpath' : f'.path = f.path := congrArg Request.path ht.request
    by_cases hpath : f.path = path
    · obtain ⟨s, hs⟩ := ht.stands hst
      obtain ⟨s', hs', hone⟩ := ht.stage s hs
      rw [hpath] at hone
      have hb := hturn ht hpath hs.fits hone
      rw [Pays, ← ht.request, ← hs'.question, ht.request, ← ht.question] at hb
      simp only [owes, hpath', hpath, decide_true, Bool.true_and, ht.request] at hflights hspent hissued
      simp only [total]
      omega
    · simp only [owes, hpath', hpath, decide_false, Bool.false_and, Bool.toNat_false] at hflights hspent hissued
      simp only [total]
      rw [ht.elsewhere path (Ne.symm hpath)]
      omega

namespace Ledger.Balanced

variable {l : Ledger}

lemma step (hl : l.Balanced policy forced adm b path) (hc : Course policy forced adm b t)
    (hp : Progress policy forced adm t t') :
    l.total policy t' path + t.count path l.issued ≤ l.total policy t path + t'.count path l.issued :=
  total_step hl.idle hl.launch hc.staged hp fun ht hpath hs hturn =>
    hl.turn hc (hc.admitted _ (Traffic.mem_requests ht.mem)) hpath hs hturn

theorem total_le (hl : l.Balanced policy forced adm b path) (h : Course policy forced adm b t) :
    l.total policy t path ≤ l.held (b.holding policy.keyRoot path) + t.count path l.issued := by
  induction h with
  | refl => simp [total, Traffic.quiet, Traffic.exchanges, Traffic.count, Traffic.holding]
  | tail hc hp ih =>
    have := hl.step hc hp
    omega

end Ledger.Balanced

end ResumableUpload.Upload
