import ResumableUpload.Proofs.Upload.Contents

/-! Laws of a path: what its holding obeys, what every upload for it may rely on at its stage, and what every
exchange for it leaves true. -/

namespace ResumableUpload.Upload

variable {policy : UploadPolicy} {forced : Prop} {adm : Request → Prop} {b : Backends} {t t' : Traffic} {path : String}

structure Law where
  holding : Holding → Prop
  stage : Request → Stage → Holding → Prop
  exchange : Exchange → Holding → Prop

namespace Law

variable {l : Law}

structure Holds (l : Law) (policy : UploadPolicy) (path : String) (t : Traffic) : Prop where
  holding : l.holding (t.holding policy path)
  stages : ∀ f ∈ t.flights, f.path = path →
    f.rest = none ∨ ∃ s, f.Stands policy s ∧ l.stage f.request s (t.holding policy path)
  exchanges : ∀ x ∈ t.exchanges, x.path = path → l.exchange x (t.holding policy path)

/-- A change of a holding that leaves everything true that uploads and exchanges rely on. -/
structure Respects (l : Law) (h h' : Holding) : Prop where
  stage : ∀ r s, l.stage r s h → l.stage r s h'
  exchange : ∀ x, l.exchange x h → l.exchange x h'

structure Kept (l : Law) (policy : UploadPolicy) (forced : Prop) (adm : Request → Prop) (b : Backends)
    (path : String) : Prop where
  initial : l.holding (b.holding policy.keyRoot path)
  launch : ∀ r h, adm r → r.path = path → l.holding h → l.stage r (.start policy r) h
  turn : ∀ {t t' : Traffic} {i : Nat} {f f' : Flight} {q : Call} {a : q.Answer} {s s' : Stage},
    Course policy forced adm b t → t.Turns policy forced i f f' q a t' → f.path = path →
    s.Fits policy f.request → l.holding (t.holding policy path) → l.stage f.request s (t.holding policy path) →
    Turn policy f.request forced s (t.holding policy path) q a s' (t'.holding policy path) →
    l.holding (t'.holding policy path) ∧ l.stage f.request s' (t'.holding policy path) ∧
      l.exchange ⟨f.request, q, a⟩ (t'.holding policy path) ∧
      l.Respects (t.holding policy path) (t'.holding policy path)

lemma Respects.refl (h : Holding) : l.Respects h h := ⟨fun _ _ => id, fun _ => id⟩

lemma Holds.flights_set (h : l.Holds policy path t) {i : Nat} {f' : Flight} {h' : Holding}
    (hr : l.Respects (t.holding policy path) h')
    (hf : f'.path = path → f'.rest = none ∨ ∃ s, f'.Stands policy s ∧ l.stage f'.request s h') :
    ∀ f ∈ t.flights.set i f', f.path = path → f.rest = none ∨ ∃ s, f.Stands policy s ∧ l.stage f.request s h' := by
  intro f hm hp
  rcases List.mem_or_eq_of_mem_set hm with hm | rfl
  · rcases h.stages f hm hp with hn | ⟨s, hs, hl⟩
    · exact .inl hn
    · exact .inr ⟨s, hs, hr.stage _ _ hl⟩
  · exact hf hp

lemma Holds.turn_here {i : Nat} {f f' : Flight} {q : Call} {a : q.Answer} (hk : l.Kept policy forced adm b path)
    (hc : Course policy forced adm b t) (h : l.Holds policy path t) (ht : t.Turns policy forced i f f' q a t')
    (hp : f.path = path) : l.Holds policy path t' := by
  obtain ⟨s, hs, hl⟩ := (h.stages f ht.mem hp).resolve_left (Flight.rest_ne_none ht.question)
  obtain ⟨s', hs', hturn⟩ := ht.stage s hs
  rw [hp] at hturn
  obtain ⟨hh, hl', hx, hr⟩ := hk.turn hc ht hp hs.fits h.holding hl hturn
  refine ⟨hh, ?_, ?_⟩
  · rw [ht.flights]
    refine h.flights_set hr fun _ => .inr ⟨s', hs', ?_⟩
    rw [ht.request]
    exact hl'
  · rw [ht.exchanges]
    intro x hm hpx
    rcases List.mem_cons.mp hm with rfl | hm
    · exact hx
    · exact hr.exchange x (h.exchanges x hm hpx)

lemma Holds.turn_elsewhere {i : Nat} {f f' : Flight} {q : Call} {a : q.Answer} (h : l.Holds policy path t)
    (ht : t.Turns policy forced i f f' q a t') (hp : path ≠ f.path) : l.Holds policy path t' := by
  have hh := ht.elsewhere path hp
  refine ⟨hh ▸ h.holding, ?_, ?_⟩
  · rw [ht.flights, hh]
    refine h.flights_set (.refl _) fun hp' => ?_
    exact absurd (hp'.symm.trans (congrArg Request.path ht.request)) hp
  · rw [ht.exchanges, hh]
    intro x hm hpx
    rcases List.mem_cons.mp hm with rfl | hm
    · exact absurd hpx.symm hp
    · exact h.exchanges x hm hpx

theorem Kept.holds (hk : l.Kept policy forced adm b path) (h : Course policy forced adm b t) :
    l.Holds policy path t := by
  induction h with
  | refl =>
    refine ⟨hk.initial, fun f hm => ?_, fun x hm => ?_⟩
    · simp [Traffic.quiet] at hm
    · simp [Traffic.quiet, Traffic.exchanges] at hm
  | @tail t _ hc hp ih =>
    cases hp with
    | launch r hr =>
      refine ⟨ih.holding, fun f hm hpf => ?_, ih.exchanges⟩
      rcases List.mem_append.mp hm with hm | hm
      · exact ih.stages f hm hpf
      · obtain rfl := List.mem_singleton.mp hm
        exact .inr ⟨_, Flight.stands_launch policy r, hk.launch r _ hr hpf ih.holding⟩
    | drop _ _ _ => exact ⟨ih.holding, ih.flights_set (.refl _) fun _ => .inl rfl, ih.exchanges⟩
    | @turn i f _ _ _ _ ht =>
      by_cases hpath : path = f.path
      · exact ih.turn_here hk hc ht hpath.symm
      · exact ih.turn_elsewhere ht hpath

end Law

end ResumableUpload.Upload
