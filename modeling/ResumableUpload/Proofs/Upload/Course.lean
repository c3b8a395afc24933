import ResumableUpload.Proofs.Upload.Traffic

/-! Traffic followed stage by stage. Each step launches an upload, drops one, or is a turn of one upload that
changes the holding of its own path alone. -/

namespace ResumableUpload.Upload

def Flight.Stands (policy : UploadPolicy) (f : Flight) (s : Stage) : Prop :=
  ∃ d, f.rest = some d ∧ Leads policy f.request .returned s d ∧ s.Fits policy f.request

def Stage.outcome : Stage → Option (Except UploadError Completion)
  | finished result => some result
  | _ => none

namespace Flight

variable {policy : UploadPolicy} {f : Flight} {s : Stage}

lemma rest_ne_none {q : Call} (h : f.question = some q) : f.rest ≠ none := by
  intro hn
  simp [question, hn] at h

lemma stands_launch (policy : UploadPolicy) (r : Request) :
    Stands policy ⟨r, some (r.procedure policy)⟩ (.start policy r) :=
  ⟨_, rfl, procedure_leads, Stage.fits_start⟩

lemma Stands.question (h : f.Stands policy s) : f.question = s.question f.request := by
  obtain ⟨d, hd, hl, _⟩ := h
  rw [Flight.question]
  rw [hd]
  cases hl with
  | ok c => rfl
  | error e => rfl
  | ask hq _ => exact hq.symm

lemma Stands.outcome (h : f.Stands policy s) : f.outcome = s.outcome := by
  obtain ⟨d, hd, hl, _⟩ := h
  rw [Flight.outcome]
  rw [hd]
  cases hl with
  | ok c => rfl
  | error e => rfl
  | ask hq _ => cases s <;> first | rfl | cases hq

lemma Stands.fits (h : f.Stands policy s) : s.Fits policy f.request := h.choose_spec.2.2

lemma Stands.after {r : Request} {q : Call} {next : q.Answer → Procedure (Except UploadError Completion)}
    (h : Stands policy ⟨r, some (.ask q next)⟩ s) (a : q.Answer) :
    s.question r = some q ∧ Stands policy ⟨r, some (next a)⟩ (s.after policy r q a) := by
  obtain ⟨d, hd, hl, hf⟩ := h
  cases hd
  cases hl with
  | ask hq hn => exact ⟨hq, _, rfl, hn a, Stage.fits_after hf hq a⟩

end Flight

namespace Traffic

variable (t : Traffic) (policy : UploadPolicy)

def holding (path : String) : Holding := t.backends.holding policy.keyRoot path

structure Turns (forced : Prop) (i : Nat) (f f' : Flight) (q : Call) (a : q.Answer) (t' : Traffic) : Prop where
  here : t.flights[i]? = some f
  question : f.question = some q
  request : f'.request = f.request
  flights : t'.flights = t.flights.set i f'
  log : t'.log = (i, ⟨f.request, q, a⟩) :: t.log
  elsewhere : ∀ path ≠ f.path, t'.holding policy path = t.holding policy path
  stage : ∀ s, f.Stands policy s → ∃ s', f'.Stands policy s' ∧
    Turn policy f.request forced s (t.holding policy f.path) q a s' (t'.holding policy f.path)

end Traffic

inductive Progress (policy : UploadPolicy) (forced : Prop) (adm : Request → Prop) (t : Traffic) : Traffic → Prop
  | launch (r : Request) : adm r → Progress policy forced adm t (t.launch policy r)
  | drop {i : Nat} {f : Flight} {q : Call} : forced → t.flights[i]? = some f → f.question = some q →
      Progress policy forced adm t (t.drop i f.request)
  | turn {i : Nat} {f f' : Flight} {q : Call} {a : q.Answer} {t' : Traffic} :
      t.Turns policy forced i f f' q a t' → Progress policy forced adm t t'

def Course (policy : UploadPolicy) (forced : Prop) (adm : Request → Prop) (b : Backends) (t : Traffic) : Prop :=
  Relation.ReflTransGen (Progress policy forced adm) (.quiet b) t

variable {policy : UploadPolicy} {forced : Prop} {adm : Request → Prop} {b : Backends} {t t' : Traffic}

lemma turns_answer {i : Nat} {r : Request} {q : Call} {next : q.Answer → Procedure (Except UploadError Completion)}
    (h : t.flights[i]? = some ⟨r, some (.ask q next)⟩)
    (hs : ∃ s, Flight.Stands policy ⟨r, some (.ask q next)⟩ s) :
    t.Turns policy False i ⟨r, some (.ask q next)⟩ ⟨r, some (next (Backends.respond q t.backends).1)⟩ q
      (Backends.respond q t.backends).1
      (t.resume i r q (Backends.respond q t.backends).1 next (Backends.respond q t.backends).2) := by
  refine ⟨h, rfl, rfl, rfl, rfl, ?_, ?_⟩
  · intro path hp
    obtain ⟨s, hs⟩ := hs
    obtain ⟨_, _, hu⟩ := turn_of_respond t.backends hs.fits (hs.after (Backends.respond q t.backends).1).1
    exact (congrFun hu path).trans (Function.update_of_ne hp _ _)
  · intro s hs
    obtain ⟨hq, ha⟩ := hs.after (Backends.respond q t.backends).1
    obtain ⟨h', ht, hu⟩ := turn_of_respond t.backends hs.fits hq
    obtain rfl : _ = h' := (congrFun hu r.path).trans (Function.update_self _ _ _)
    exact ⟨_, ha, ht⟩

lemma turns_fail {i : Nat} {r : Request} {q : Call} {next : q.Answer → Procedure (Except UploadError Completion)}
    {a : q.Answer} (h : t.flights[i]? = some ⟨r, some (.ask q next)⟩) (ha : q.IsFailure a) :
    t.Turns policy True i ⟨r, some (.ask q next)⟩ ⟨r, some (next a)⟩ q a (t.resume i r q a next t.backends) := by
  refine ⟨h, rfl, rfl, rfl, rfl, fun _ _ => rfl, ?_⟩
  intro s hs
  obtain ⟨hq, hn⟩ := hs.after a
  exact ⟨_, hn, turn_of_failure _ hq ha⟩

lemma Turn.weaken {r : Request} {s s' : Stage} {h h' : Holding} {q : Call} {a : q.Answer}
    (ht : Turn policy r False s h q a s' h') : Turn policy r True s h q a s' h' := by
  cases ht with
  | found ho => exact .found ho
  | missing _ => exact .missing (.inl trivial)
  | registered hr => exact .registered hr
  | drawn => exact .drawn
  | deposited => exact .deposited
  | fetched ht hk => exact .fetched ht hk
  | garbled ht hk => exact .garbled ht hk
  | stored hb hc => exact .stored hb hc
  | assembled hb hp hc ho => exact .assembled hb hp hc ho
  | inspected ho => exact .inspected ho
  | unseen _ => exact .unseen (.inl trivial)
  | untagged _ hq ho => exact .untagged trivial hq ho
  | marked hr => exact .marked hr
  | unmarked _ => exact .unmarked (.inl trivial)
  | refused hq ha hn => exact .refused hq ha hn

lemma Traffic.Turns.weaken {i : Nat} {f f' : Flight} {q : Call} {a : q.Answer}
    (h : t.Turns policy False i f f' q a t') : t.Turns policy True i f f' q a t' := by
  refine ⟨h.here, h.question, h.request, h.flights, h.log, h.elsewhere, ?_⟩
  intro s hs
  obtain ⟨s', hs', ht⟩ := h.stage s hs
  exact ⟨s', hs', ht.weaken⟩

def Traffic.Staged (policy : UploadPolicy) (t : Traffic) : Prop :=
  ∀ f ∈ t.flights, f.rest = none ∨ ∃ s, f.Stands policy s

namespace Traffic.Turns

variable {i : Nat} {f f' : Flight} {q : Call} {a : q.Answer}

lemma mem (h : t.Turns policy forced i f f' q a t') : f ∈ t.flights := List.mem_of_getElem? h.here

lemma stands (h : t.Turns policy forced i f f' q a t') (ht : t.Staged policy) : ∃ s, f.Stands policy s :=
  (ht f h.mem).resolve_left (Flight.rest_ne_none h.question)

lemma exchanges (h : t.Turns policy forced i f f' q a t') : t'.exchanges = ⟨f.request, q, a⟩ :: t.exchanges := by
  rw [Traffic.exchanges, Traffic.exchanges, h.log, List.map_cons]

lemma exchangesOf_self (h : t.Turns policy forced i f f' q a t') :
    t'.exchangesOf i = ⟨f.request, q, a⟩ :: t.exchangesOf i := by
  rw [Traffic.exchangesOf, Traffic.exchangesOf, h.log, List.filter_cons_of_pos (by simp), List.map_cons]

lemma exchangesOf_of_ne (h : t.Turns policy forced i f f' q a t') {j : Nat} (hj : j ≠ i) :
    t'.exchangesOf j = t.exchangesOf j := by
  rw [Traffic.exchangesOf, Traffic.exchangesOf, h.log, List.filter_cons_of_neg (by simpa using hj.symm)]

lemma exchange (h : t.Turns policy forced i f f' q a t') : ⟨f.request, q, a⟩ ∈ t'.exchanges := by
  rw [h.exchanges]
  exact List.mem_cons_self

end Traffic.Turns

lemma Move.progress (hs : t.Staged policy) (h : Move policy t t') (hadm : ∀ r ∈ t'.requests, adm r) :
    Progress policy False adm t t' := by
  cases h with
  | launch r => exact .launch r (hadm r (by simp [Traffic.requests, Traffic.launch]))
  | answer hi =>
    obtain hn | hs := hs _ (List.mem_of_getElem? hi)
    · cases hn
    · exact .turn (turns_answer hi hs)

lemma Step.progress (hs : t.Staged policy) (h : Step policy t t') (hadm : ∀ r ∈ t'.requests, adm r) :
    Progress policy True adm t t' := by
  rcases h with h | h
  · cases h.progress hs hadm with
    | launch r hr => exact .launch r hr
    | drop hf _ _ => exact hf.elim
    | turn ht => exact .turn ht.weaken
  · cases h with
    | fail a hi ha => exact .turn (turns_fail hi ha)
    | drop hi => exact .drop trivial hi rfl

lemma Progress.staged (ht : t.Staged policy) (h : Progress policy forced adm t t') : t'.Staged policy := by
  intro f hf
  cases h with
  | launch r _ =>
    rcases List.mem_append.mp hf with hf | hf
    · exact ht f hf
    · obtain rfl := List.mem_singleton.mp hf
      exact .inr ⟨_, Flight.stands_launch policy r⟩
  | drop _ hi _ =>
    rcases List.mem_or_eq_of_mem_set hf with hf | rfl
    · exact ht f hf
    · exact .inl rfl
  | turn hturn =>
    rw [hturn.flights] at hf
    rcases List.mem_or_eq_of_mem_set hf with hf | rfl
    · exact ht f hf
    · obtain ⟨s, hs⟩ := hturn.stands ht
      obtain ⟨s', hs', _⟩ := hturn.stage s hs
      exact .inr ⟨s', hs'⟩

lemma Flight.map_request_set {l : List Flight} {i : Nat} {f f' : Flight} (hi : l[i]? = some f)
    (hr : f'.request = f.request) : (l.set i f').map (·.request) = l.map (·.request) := by
  obtain ⟨hlt, rfl⟩ := List.getElem?_eq_some_iff.mp hi
  apply List.ext_getElem (by simp)
  intro j hj _
  simp only [List.getElem_map, List.getElem_set]
  split
  · next hij =>
    subst hij
    exact hr
  · rfl

lemma Progress.requests (h : Progress policy forced adm t t') :
    t'.requests = t.requests ∨ ∃ r, adm r ∧ t'.requests = t.requests ++ [r] := by
  cases h with
  | launch r hr => exact .inr ⟨r, hr, by simp [Traffic.requests, Traffic.launch]⟩
  | drop _ hi _ => exact .inl (Flight.map_request_set hi rfl)
  | turn ht =>
    refine .inl ?_
    rw [Traffic.requests, ht.flights]
    exact Flight.map_request_set ht.here ht.request

lemma Progress.requests_subset (h : Progress policy forced adm t t') : t.requests ⊆ t'.requests := by
  rcases h.requests with he | ⟨r, _, he⟩
  · rw [he]
    exact fun _ => id
  · rw [he]
    exact List.subset_append_left _ _

lemma Progress.exists_flight {i : Nat} {f : Flight} (h : Progress policy forced adm t t') (hf : t.flights[i]? = some f) :
    ∃ f', t'.flights[i]? = some f' ∧ f'.request = f.request ∧ t.exchangesOf i ⊆ t'.exchangesOf i := by
  obtain ⟨hlt, rfl⟩ := List.getElem?_eq_some_iff.mp hf
  cases h with
  | launch r _ =>
    refine ⟨_, ?_, rfl, fun _ => id⟩
    rw [Traffic.launch, List.getElem?_append_left hlt]
    exact hf
  | @drop j g _ _ hg _ =>
    by_cases hij : i = j
    · subst hij
      obtain rfl : g = t.flights[i] := Option.some.inj (hg.symm.trans hf)
      exact ⟨_, List.getElem?_set_self hlt, rfl, fun _ => id⟩
    · exact ⟨_, (List.getElem?_set_ne (Ne.symm hij)).trans hf, rfl, fun _ => id⟩
  | @turn j g g' _ _ _ ht =>
    by_cases hij : i = j
    · subst hij
      obtain rfl : g = t.flights[i] := Option.some.inj (ht.here.symm.trans hf)
      refine ⟨g', ?_, ht.request, ?_⟩
      · rw [ht.flights]
        exact List.getElem?_set_self hlt
      · rw [ht.exchangesOf_self]
        exact List.subset_cons_self _ _
    · refine ⟨_, ?_, rfl, ?_⟩
      · rw [ht.flights, List.getElem?_set_ne (Ne.symm hij)]
        exact hf
      · rw [ht.exchangesOf_of_ne hij]
        exact fun _ => id

lemma Step.progress_any (hs : t.Staged policy) (h : Step policy t t') :
    Progress policy True (fun _ => True) t t' := h.progress hs fun _ _ => trivial

section

variable {step : Traffic → Traffic → Prop}
  (hstep : ∀ {t t' : Traffic} {adm : Request → Prop}, t.Staged policy → step t t' → (∀ r ∈ t'.requests, adm r) →
    Progress policy forced adm t t')
include hstep

lemma staged_of_steps (h : Relation.ReflTransGen step (.quiet b) t) : t.Staged policy := by
  induction h with
  | refl => simp [Traffic.Staged, Traffic.quiet]
  | tail _ hs ih =>
    have hany : Progress policy forced (fun _ => True) _ _ := hstep ih hs fun _ _ => trivial
    exact hany.staged ih

lemma course_of_steps (h : Relation.ReflTransGen step (.quiet b) t) (hadm : ∀ r ∈ t.requests, adm r) :
    Course policy forced adm b t := by
  induction h with
  | refl => exact .refl
  | tail hr hs ih =>
    have hst := staged_of_steps hstep hr
    have hany : Progress policy forced (fun _ => True) _ _ := hstep hst hs fun _ _ => trivial
    exact .tail (ih fun r hr => hadm r (hany.requests_subset hr)) (hstep hst hs hadm)

end

lemma Reachable.staged (h : Reachable policy b t) : t.Staged policy :=
  staged_of_steps (fun hs hp hadm => Step.progress hs hp hadm) h

lemma Reachable.course (h : Reachable policy b t) (hadm : ∀ r ∈ t.requests, adm r) : Course policy True adm b t :=
  course_of_steps (fun hs hp hadm => Step.progress hs hp hadm) h hadm

lemma Smooth.reachable (h : Smooth policy b t) : Reachable policy b t :=
  Relation.ReflTransGen.mono (fun _ _ h => Or.inl h) _ _ h

lemma Smooth.course (h : Smooth policy b t) (hadm : ∀ r ∈ t.requests, adm r) : Course policy False adm b t :=
  course_of_steps (fun hs hp hadm => Move.progress hs hp hadm) h hadm

namespace Course

lemma staged (h : Course policy forced adm b t) : t.Staged policy := by
  induction h with
  | refl => simp [Traffic.Staged, Traffic.quiet]
  | tail _ hs ih => exact hs.staged ih

lemma admitted (h : Course policy forced adm b t) : ∀ r ∈ t.requests, adm r := by
  induction h with
  | refl => simp [Traffic.requests, Traffic.quiet]
  | tail _ hs ih =>
    rcases hs.requests with he | ⟨r, hr, he⟩
    · rwa [he]
    · intro r' hr'
      rw [he] at hr'
      rcases List.mem_append.mp hr' with h | h
      · exact ih r' h
      · obtain rfl := List.mem_singleton.mp h
        exact hr

end Course

lemma Progress.kept {α : Type} {g : Holding → Option α} {path : String} {x : α}
    (hturn : ∀ {t t' : Traffic} {i : Nat} {f f' : Flight} {q : Call} {a : q.Answer}, Course policy forced adm b t →
      t.Turns policy forced i f f' q a t' → f.path = path → g (t.holding policy path) = some x →
      g (t'.holding policy path) = some x)
    (h : Course policy forced adm b t) (hp : Progress policy forced adm t t')
    (hx : g (t.holding policy path) = some x) : g (t'.holding policy path) = some x := by
  cases hp with
  | launch r _ => exact hx
  | drop _ _ _ => exact hx
  | @turn i f _ _ _ _ ht =>
    by_cases hpath : path = f.path
    · exact hturn h ht hpath.symm hx
    · rw [ht.elsewhere path hpath, hx]

theorem Reachable.kept {α : Type} {g : Holding → Option α} {path : String} {x : α}
    (hturn : ∀ {t t' : Traffic} {i : Nat} {f f' : Flight} {q : Call} {a : q.Answer}, Course policy True adm b t →
      t.Turns policy True i f f' q a t' → f.path = path → g (t.holding policy path) = some x →
      g (t'.holding policy path) = some x)
    (h : Reachable policy b t) (hs : Relation.ReflTransGen (Step policy) t t') (hadm : ∀ r ∈ t'.requests, adm r)
    (hx : g (t.holding policy path) = some x) : g (t'.holding policy path) = some x := by
  induction hs with
  | refl => exact hx
  | tail hs hstep ih =>
    have hr : Reachable policy b _ := h.trans hs
    have hp := hstep.progress hr.staged hadm
    have hadm' : ∀ r ∈ Traffic.requests _, adm r := fun r hm => hadm r (hp.requests_subset hm)
    exact hp.kept hturn (hr.course hadm') (ih hadm')

end ResumableUpload.Upload
