import ResumableUpload.Proofs.Upload.Alone
import ResumableUpload.Proofs.Upload.Orderly
import ResumableUpload.Proofs.Upload.Retention

/-! Files that are stored but not recorded as complete. When the last of several chunks comes again, it records
the file and stores nothing; an only chunk is refused, as every first chunk of a registered file is. -/

namespace ResumableUpload.Upload

variable {policy : UploadPolicy} {adm : Request → Prop} {b : Backends} {t t' : Traffic} {path : String} {total : Nat}

inductive Untagged (t : Traffic) : Traffic → Prop
  | head {i : Nat} {r : Request} {p : String} {next} {o : StoredObject} :
      t.flights[i]? = some ⟨r, some (.ask (.storage (.head p)) next)⟩ → t.backends.objects.objects.get? p = some o →
      Untagged t (t.resume i r (.storage (.head p)) (.ok ⟨o.content.size, none⟩) next t.backends)

def Unsteady (policy : UploadPolicy) (t t' : Traffic) : Prop := Step policy t t' ∨ Untagged t t'

lemma turns_untagged {i : Nat} {r : Request} {p : String} {next} {o : StoredObject}
    (h : t.flights[i]? = some ⟨r, some (.ask (.storage (.head p)) next)⟩)
    (ho : t.backends.objects.objects.get? p = some o) :
    t.Turns policy True i ⟨r, some (.ask (.storage (.head p)) next)⟩ ⟨r, some (next (.ok ⟨o.content.size, none⟩))⟩
      (.storage (.head p)) (.ok ⟨o.content.size, none⟩)
      (t.resume i r (.storage (.head p)) (.ok ⟨o.content.size, none⟩) next t.backends) := by
  refine ⟨h, rfl, rfl, rfl, rfl, fun _ _ => rfl, fun s hs => ?_⟩
  obtain ⟨hq, hn⟩ := hs.after (.ok ⟨o.content.size, none⟩)
  refine ⟨_, hn, ?_⟩
  cases s with
  | probe =>
    cases hq
    exact .untagged trivial rfl ho
  | inspect =>
    cases hq
    exact .untagged trivial rfl ho
  | _ => cases hq

lemma Unsteady.progress (hs : t.Staged policy) (h : Unsteady policy t t') (hadm : ∀ r ∈ t'.requests, adm r) :
    Progress policy True adm t t' := by
  rcases h with h | h
  · exact h.progress hs hadm
  · cases h with
    | head hi ho => exact .turn (turns_untagged hi ho)

theorem Unsteady.recorded (hv : b.holding policy.keyRoot path = .vacant)
    (h : Relation.ReflTransGen (Unsteady policy) (.quiet b) t) (ha : ∀ r ∈ t.requests, Agreed path total r)
    (hf : ∃ f ∈ t.flights, f.path = path ∧ ∃ e, f.outcome = some (.ok (.unrecorded e)))
    (hn : (t.holding policy path).uploaded = false) {r : Request} (hp : r.path = path)
    (hc : r.chunk.current = total ∧ r.chunk.total = total) :
    (2 ≤ total → ∃ o m old, (t.holding policy path).object = some o ∧
      (t.holding policy path).record = some ⟨m, .created, old⟩ ∧
      r.Leaves policy t.backends (.ok .completed) { t.holding policy path with
        record := some ⟨m, .uploaded, some (ETag.unquote o.etag)⟩ }) ∧
    (total = 1 → r.Leaves policy t.backends (.error .duplicateFile) (t.holding policy path)) := by
  have hcourse := course_of_steps (fun hs hp hadm => Unsteady.progress hs hp hadm) h ha
  obtain ⟨f, hf, rfl, e, hout⟩ := hf
  have hobject := hcourse.object_of_outcome hf hout rfl
  obtain ⟨o, ho⟩ := Option.isSome_iff_exists.mp hobject
  obtain ⟨file, hr⟩ := Option.isSome_iff_exists.mp (hcourse.record_of_object hv hobject)
  obtain ⟨parts, last, hj⟩ := (hcourse.filled hv).object o ho
  have hlast : last.chunk.total = total := ha last hj.sent.1 hj.path
  have hin : r.chunk.InRange := by
    have hrange := hj.sent.2
    have hpos := hrange.1.trans hrange.2.1
    rw [hlast] at hpos
    refine ⟨hc.1 ▸ hpos, (hc.1.trans hc.2.symm).le, ?_⟩
    rw [hc.2, ← hlast]
    exact hrange.2.2
  have hhere : t.backends.holding policy.keyRoot r.path = t.holding policy f.path := by rw [hp]; rfl
  constructor
  · intro htwo
    obtain ⟨m, state, old⟩ := file
    cases state with
    | uploaded => simp [Holding.uploaded, hr] at hn
    | created =>
      have hfirst : r.chunk.isFirst = false := decide_eq_false (by omega)
      have hfinal : r.chunk.isFinal = true := decide_eq_true (hc.1.trans hc.2.symm)
      exact ⟨o, m, old, ho, hr, Request.leaves_recorded policy hhere hin hfirst hfinal ho hr⟩
  · intro hone
    have hfirst : r.chunk.isFirst = true := decide_eq_true (hc.1.trans hone)
    have hleaves := Request.leaves_duplicate policy hin hfirst (hhere ▸ hr)
    rwa [hhere] at hleaves

section

def markless : Responder
  | .registry (.mark ..), b => (.error .timeout, b)
  | q, b => Backends.respond q b

lemma possible_markless : markless.Possible := by
  intro q b
  cases q with
  | registry c =>
    cases c with
    | mark authorization path etag => exact .inr ⟨_, ⟨_, rfl⟩, rfl⟩
    | _ => exact .inl rfl
  | _ => exact .inl rfl

lemma ends_markless {b : Backends} {h : Holding} {o : StoredObject} (hb : b.holding none "a" = h)
    (hn : h.object = none) (hc : 2 ≤ (h.parts.insert 2 (Request.least 2 2).payload).count)
    (ho : o = let parts := h.parts.insert 2 (Request.least 2 2).payload
      ⟨parts.assembled, ObjectStore.objectTag parts.assembled parts.count⟩) :
    (Stage.start ⟨none, .part⟩ (.least 2 2)).Ends ⟨none, .part⟩ (.least 2 2) markless b
      (.ok (.unrecorded .timeout)) { h with parts := ∅, object := some o } := by
  subst hb
  have hobject : (b.holding none "a").object = none := hn
  have hhead : markless (.storage (.head "a")) b = (.error (.notFound "a"), b) :=
    Backends.respond_head_of_none hobject
  refine .look rfl hhead ?_
  have hbody : (Request.least 2 2).chunk.body (Request.least 2 2).payload none = .ok (Request.least 2 2).payload := rfl
  refine Stage.Ends.gathered (fun _ _ => rfl) (Request.least_sizeAdmissible 2 2) hbody hc ho ?_
  intro b₁ hb₁
  have hh : b₁.holding none "a" = { b.holding none "a" with parts := ∅, object := some o } :=
    (congrFun hb₁ "a").trans (Function.update_self _ _ _)
  rw [← hh]
  exact .last rfl rfl (Function.update_eq_self _ _).symm rfl

theorem last_half_recorded : ∃ t, Relation.ReflTransGen (Unsteady ⟨none, .part⟩) (.quiet (.withKeys [])) t ∧
    (⟨.least 2 2, some (.done (.ok (.unrecorded .timeout)))⟩ : Flight) ∈ t.flights ∧
    ∃ o m old, (t.holding ⟨none, .part⟩ "a").object = some o ∧
      (t.holding ⟨none, .part⟩ "a").record = some ⟨m, .created, old⟩ ∧
      (Request.least 2 2).Leaves ⟨none, .part⟩ t.backends (.ok .completed) { t.holding ⟨none, .part⟩ "a" with
        record := some ⟨m, .uploaded, some (ETag.unquote o.etag)⟩ } := by
  obtain ⟨t₁, hs₁, hf₁, hh₁⟩ := Request.steps_least ⟨none, .part⟩ none (.quiet (.withKeys []))
    (by decide : (Request.least 1 2).chunk.InRange) (by decide) rfl rfl rfl
  obtain ⟨t₂, hs₂, hb₂, hf₂⟩ := steps_of_launch ⟨none, .part⟩ possible_markless t₁ (.least 2 2)
  obtain ⟨b', hrun, hb'⟩ := ends_markless hh₁ rfl (by decide) rfl _ procedure_leads
  rw [hrun] at hb₂ hf₂
  have hreach : Reachable ⟨none, .part⟩ (.withKeys []) t₂ := hs₁.trans hs₂
  have hsteps : Relation.ReflTransGen (Unsteady ⟨none, .part⟩) (.quiet (.withKeys [])) t₂ :=
    Relation.ReflTransGen.mono (fun _ _ h => .inl h) _ _ hreach
  have hflight : (⟨.least 2 2, some (.done (.ok (.unrecorded .timeout)))⟩ : Flight) ∈ t₂.flights := by simp [hf₂]
  have hrecord : (t₂.holding ⟨none, .part⟩ "a").record = some ⟨(Request.least 2 2).metadata, .created, none⟩ := by
    rw [Traffic.holding, hb₂, hb']
    rfl
  have hrequests : ∀ r ∈ t₂.requests, Agreed "a" 2 r := by
    intro r hr _
    have hr' : r ∈ [Request.least 1 2, .least 2 2] := by
      rw [Traffic.requests, hf₂, hf₁] at hr
      exact hr
    rcases List.mem_pair.mp hr' with rfl | rfl <;> rfl
  refine ⟨t₂, hsteps, hflight, ?_⟩
  refine (Unsteady.recorded rfl hsteps hrequests ⟨_, hflight, rfl, _, rfl⟩ ?_ rfl ⟨rfl, rfl⟩).1 (Nat.le_refl 2)
  rw [Holding.uploaded, hrecord]
  rfl

theorem only_chunk_refused : ∃ t, Relation.ReflTransGen (Unsteady ⟨none, .part⟩) (.quiet (.withKeys [])) t ∧
    t.flights = [⟨.plain "a" 1 1 ⟨#[7]⟩, some (.done (.ok (.unrecorded .timeout)))⟩] ∧
    (t.holding ⟨none, .part⟩ "a").object.isSome = true ∧ (t.holding ⟨none, .part⟩ "a").uploaded = false ∧
    ((Request.plain "a" 1 1 ⟨#[7]⟩).serve ⟨none, .part⟩ t.backends).1 = .error .duplicateFile := by
  -- the mark is given as failed, so the file is left in the state in which it was created
  obtain ⟨t, hs, hb, hf⟩ := steps_of_launch ⟨none, .part⟩ possible_markless (.quiet (.withKeys []))
    (.plain "a" 1 1 ⟨#[7]⟩)
  refine ⟨t, Relation.ReflTransGen.mono (fun _ _ h => .inl h) _ _ hs, hf, ?_, ?_, ?_⟩
  · rw [Traffic.holding, hb]
    rfl
  · rw [Traffic.holding, hb]
    rfl
  · rw [hb]
    rfl

end

end ResumableUpload.Upload
