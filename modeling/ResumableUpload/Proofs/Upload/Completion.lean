import ResumableUpload.Proofs.Upload.Custody
import ResumableUpload.Proofs.Upload.Law

/-! Which uploads finish a file. The upload that assembles the object goes on to mark the file, and as many
uploads return as completed as there were marks. -/

namespace ResumableUpload.Upload

variable {policy : UploadPolicy} {forced : Prop} {adm : Request → Prop} {b : Backends} {t t' : Traffic}
  {path : String} {total : Nat}

def isCompleted : Option (Except UploadError Completion) → Bool
  | some (.ok .completed) => true
  | _ => false

def Flight.completed (f : Flight) : Bool := isCompleted f.outcome

def Stage.completed (s : Stage) : Bool := isCompleted s.outcome

lemma Flight.Stands.completed {f : Flight} {s : Stage} (h : f.Stands policy s) : f.completed = s.completed :=
  congrArg isCompleted h.outcome

lemma Flight.not_completed_of_question {f : Flight} {q : Call} (h : f.question = some q) : f.completed = false := by
  obtain ⟨r, rest⟩ := f
  rw [question] at h
  split at h
  · next hrest =>
    obtain rfl : rest = _ := hrest
    rfl
  · cases h

lemma Stage.not_completed_of_opening {s : Stage} (h : s.Opening policy) : s.completed = false := by
  cases s with
  | finished result =>
    cases result with
    | error e => rfl
    | ok c => exact h.elim
  | _ => rfl

lemma Turn.completed_eq_marks {r : Request} {s s' : Stage} {h h' : Holding} {q : Call} {a : q.Answer}
    (ht : Turn policy r forced s h q a s' h') : s'.completed = Exchange.marks ⟨r, q, a⟩ := by
  cases ht with
  | missing _ => exact Stage.not_completed_of_opening Stage.opening_entry
  | registered _ => exact Stage.not_completed_of_opening Stage.opening_keyed
  | assembled _ _ _ _ =>
    rw [Stage.assembled]
    cases policy.digest <;> rfl
  | refused _ ha _ => exact (Exchange.void_of_failure ha).2.2.2.symm
  | _ => rfl

theorem Course.completed_eq_marks (h : Course policy forced adm b t) (path : String) :
    t.flights.countP (fun f => f.path = path && f.completed) = t.count path Exchange.marks := by
  induction h with
  | refl => rfl
  | @tail t _ hc hp ih =>
    cases hp with
    | launch r _ =>
      have hn : Flight.completed ⟨r, some (r.procedure policy)⟩ = false := by
        rw [(Flight.stands_launch policy r).completed]
        exact Stage.not_completed_of_opening Stage.opening_start
      simp only [Traffic.launch, List.countP_append, List.countP_singleton, hn, Bool.and_false]
      exact ih
    | @drop i f q _ hi hq =>
      have hset := countP_set_add (c := ⟨f.request, none⟩) (fun f => f.path = path && f.completed) hi
      have hn : Flight.completed ⟨f.request, none⟩ = false := rfl
      simp only [Flight.not_completed_of_question hq, hn, Bool.and_false, Bool.toNat_false] at hset
      exact hset.trans ih
    | @turn i f f' q a _ ht =>
      obtain ⟨s, hs⟩ := ht.stands (Course.staged hc)
      obtain ⟨s', hs', hturn⟩ := ht.stage s hs
      have hset := countP_set_add (c := f') (fun f => f.path = path && f.completed) ht.here
      have hpath : f'.path = f.path := congrArg Request.path ht.request
      simp only [← ht.flights, Flight.not_completed_of_question ht.question, hpath, hs'.completed,
        hturn.completed_eq_marks, Bool.and_false, Bool.toNat_false] at hset
      rw [ht.count, ← ih]
      exact hset

def Stage.finishing : Stage → Prop
  | inspect | mark _ => True
  | _ => False

namespace Turn

variable {r : Request} {s s' : Stage} {h h' : Holding} {q : Call} {a : q.Answer}

lemma uploaded_kept (ht : Turn policy r forced s h q a s' h') (hu : h.uploaded = true) : h'.uploaded = true := by
  cases ht with
  | registered hr => simp [Holding.uploaded, hr] at hu
  | marked _ => rfl
  | _ => exact hu

lemma finishing_of_object (ht : Turn policy r forced s h q a s' h') (hn : h.object = none)
    (ho : h'.object.isSome = true) : s'.finishing := by
  cases ht with
  | assembled _ _ _ _ =>
    rw [Stage.assembled]
    cases policy.digest <;> exact trivial
  | _ =>
    rw [hn] at ho
    cases ho

lemma finishing_kept (ht : Turn policy r False s h q a s' h') (hs : s.finishing) (ho : h.object.isSome = true)
    (hr : h.record.isNone = false) : s'.finishing ∨ h'.uploaded = true := by
  cases ht with
  | inspected _ => exact .inl trivial
  | unseen hn =>
    rw [hn.resolve_left id] at ho
    cases ho
  | untagged hf _ _ => exact hf.elim
  | marked _ => exact .inr rfl
  | unmarked hu =>
    obtain ⟨f, hf⟩ := Option.isSome_iff_exists.mp (Option.isNone_eq_false_iff.mp hr)
    exact .inr (Holding.uploaded_iff.mpr ⟨f, hf, hu.resolve_left id f hf⟩)
  | refused hq ha he =>
    cases s with
    | inspect | mark _ =>
      cases hq
      obtain ⟨e, rfl⟩ := ha
      cases he
    | _ => exact hs.elim
  | _ => exact hs.elim

end Turn

def Traffic.Finishing (policy : UploadPolicy) (t : Traffic) (path : String) : Prop :=
  (t.holding policy path).object.isSome = true → (t.holding policy path).uploaded = true ∨
    ∃ f ∈ t.flights, f.path = path ∧ ∃ s, f.Stands policy s ∧ s.finishing

lemma mem_set_of_ne {α : Type} {l : List α} {i : Nat} {x a c : α} (hx : x ∈ l) (hi : l[i]? = some a) (hne : x ≠ a) :
    x ∈ l.set i c := by
  obtain ⟨j, hj⟩ := List.mem_iff_getElem?.mp hx
  have hij : i ≠ j := by
    rintro rfl
    exact hne (Option.some.inj (hj.symm.trans hi))
  exact List.mem_of_getElem? ((List.getElem?_set_ne hij).trans hj)

lemma finishing_turn {i : Nat} {f f' : Flight} {q : Call} {a : q.Answer} (hst : t.Staged policy)
    (hf : t.Finishing policy f.path) (ht : t.Turns policy False i f f' q a t')
    (hr : (t.holding policy f.path).object.isSome = true → (t.holding policy f.path).record.isNone = false) :
    t'.Finishing policy f.path := by
  intro ho
  have hf' : f' ∈ t'.flights := by
    rw [ht.flights]
    exact List.mem_set (List.getElem?_eq_some_iff.mp ht.here).1 f'
  have hpath : f'.path = f.path := congrArg Request.path ht.request
  cases hobject : (t.holding policy f.path).object with
  | none =>
    obtain ⟨s, hs⟩ := ht.stands hst
    obtain ⟨s', hs', hturn⟩ := ht.stage s hs
    exact .inr ⟨f', hf', hpath, s', hs', hturn.finishing_of_object hobject ho⟩
  | some o =>
    have hsome : (t.holding policy f.path).object.isSome = true := by rw [hobject]; rfl
    rcases hf hsome with hu | ⟨g, hg, hp, s, hs, hfin⟩
    · obtain ⟨s, hs⟩ := ht.stands hst
      obtain ⟨s', _, hturn⟩ := ht.stage s hs
      exact .inl (hturn.uploaded_kept hu)
    · -- the upload that is to finish the file is either the one that goes on, or stays as it is
      by_cases hgf : g = f
      · subst hgf
        obtain ⟨s', hs', hturn⟩ := ht.stage s hs
        rcases hturn.finishing_kept hfin hsome (hr hsome) with hfin' | hu
        · exact .inr ⟨f', hf', hpath, s', hs', hfin'⟩
        · exact .inl hu
      · refine .inr ⟨g, ?_, hp, s, hs, hfin⟩
        rw [ht.flights]
        exact mem_set_of_ne hg ht.here hgf

theorem Course.finishing (h : Course policy False (Agreed path total) b t)
    (hv : b.holding policy.keyRoot path = .vacant) : t.Finishing policy path := by
  induction h with
  | refl =>
    intro ho
    have hh : (Traffic.quiet b).holding policy path = .vacant := hv
    rw [hh] at ho
    cases ho
  | @tail t _ hc hp ih =>
    have hc : Course policy False (Agreed path total) b t := hc
    cases hp with
    | launch r _ =>
      intro ho
      rcases ih ho with hu | ⟨g, hg, hrest⟩
      · exact .inl hu
      · exact .inr ⟨g, List.mem_append_left _ hg, hrest⟩
    | drop hf _ _ => exact hf.elim
    | @turn i f f' q a _ ht =>
      by_cases hpath : path = f.path
      · subst hpath
        refine finishing_turn hc.staged ih ht fun ho => ?_
        exact Option.isNone_eq_false_iff.mpr (hc.record_of_object hv ho)
      · intro ho
        rw [ht.elsewhere path hpath] at ho ⊢
        rcases ih ho with hu | ⟨g, hg, hp, hrest⟩
        · exact .inl hu
        · refine .inr ⟨g, ?_, hp, hrest⟩
          rw [ht.flights]
          refine mem_set_of_ne hg ht.here ?_
          rintro rfl
          exact hpath hp.symm

end ResumableUpload.Upload
