import ResumableUpload.Proofs.Upload.Alone
import ResumableUpload.Proofs.Upload.Orderly
import ResumableUpload.Proofs.Upload.Retention

/-! What uploads can still do for a file that is complete. A chunk that comes again is stored anew unless it is
the first one, which is refused, or the last one, which finds the object unless its probe fails. -/

namespace ResumableUpload.Upload

variable {policy : UploadPolicy} {forced : Prop} {adm : Request → Prop} {b : Backends} {t t' u : Traffic} {path : String}
  {total : Nat}

/-- A chunk that opens the upload of its file again, told by the exchanges of its own upload; a last chunk does so only
after a probe that failed. -/
def Request.Reopens (r : Request) (log : List Exchange) : Prop :=
  r.chunk.isFirst = false ∧ (r.chunk.isFinal = true → ∃ e, (⟨r, .storage (.head r.path), .error e⟩ : Exchange) ∈ log)

lemma Request.Reopens.mono {r : Request} {log log' : List Exchange} (h : r.Reopens log) (hl : log ⊆ log') :
    r.Reopens log' := by
  refine ⟨h.1, fun hf => ?_⟩
  obtain ⟨e, he⟩ := h.2 hf
  exact ⟨e, hl he⟩

def Stage.Late (reopens : Prop) : Stage → Prop
  | draw _ | deposit .. => False
  | fetch _ | put _ | finished (.ok .continuing) => reopens
  | _ => True

namespace Stage

variable {r : Request} {reopens : Prop} {s : Stage}

lemma late_entry (hr : r.chunk.isFirst = false → reopens) : (entry policy r).Late reopens :=
  entry_of (P := (Late reopens ·)) (fun _ => trivial) (fun _ hf => hr hf) fun _ _ hf => hr hf

lemma late_start (log : List Exchange) : (start policy r).Late (r.Reopens log) :=
  start_of_position (P := (Late (r.Reopens log) ·)) (fun _ _ => trivial) (fun _ _ => trivial)
    fun _ hn => late_entry fun hf => ⟨hf, fun hl => absurd ⟨hf, hl⟩ hn⟩

end Stage

lemma Turn.late {r : Request} {s s' : Stage} {h h' : Holding} {q : Call} {a : q.Answer} {log : List Exchange}
    (ht : Turn policy r forced s h q a s' h') (hs : s.Fits policy r) (hr : h.record.isSome = true)
    (hl : s.Late (r.Reopens log)) : s'.Late (r.Reopens (⟨r, q, a⟩ :: log)) := by
  have hmono : r.Reopens log → r.Reopens (⟨r, q, a⟩ :: log) := fun h => h.mono (List.subset_cons_self _ _)
  cases ht with
  | missing _ => exact Stage.late_entry fun hf => ⟨hf, fun _ => ⟨_, List.mem_cons_self⟩⟩
  | registered hn =>
    rw [hn] at hr
    cases hr
  | drawn => exact hl.elim
  | deposited => exact hl.elim
  | fetched _ _ => exact hmono hl
  | stored _ _ => exact hmono hl
  | assembled _ _ _ _ =>
    rw [Stage.assembled]
    cases policy.digest <;> trivial
  | _ => trivial

def Traffic.Idle (t : Traffic) (path : String) : Prop := ∀ f ∈ t.flights, f.path = path → f.question = none

def Traffic.Reopened (t : Traffic) (n : Nat) (path : String) : Prop :=
  ∃ i f, n ≤ i ∧ t.flights[i]? = some f ∧ f.path = path ∧ f.request.Reopens (t.exchangesOf i)

lemma Traffic.Reopened.step {n : Nat} (h : t.Reopened n path) (hp : Progress policy forced adm t t') :
    t'.Reopened n path := by
  obtain ⟨i, f, hi, hf, rfl, hopens⟩ := h
  obtain ⟨f', hf', hrequest, hlog⟩ := hp.exists_flight hf
  refine ⟨i, f', hi, hf', congrArg Request.path hrequest, ?_⟩
  rw [hrequest]
  exact hopens.mono hlog

structure Traffic.Sealed (t : Traffic) (policy : UploadPolicy) (path : String) (t' : Traffic) : Prop where
  flights : t.flights.length ≤ t'.flights.length
  object : (t'.holding policy path).object.isSome = true
  record : (t'.holding policy path).record.isSome = true
  late : ∀ i g, t.flights.length ≤ i → t'.flights[i]? = some g → g.path = path →
    g.rest = none ∨ ∃ s, g.Stands policy s ∧ s.Late (g.request.Reopens (t'.exchangesOf i))
  early : t.Idle path → ∀ i f, i < t.flights.length → t'.flights[i]? = some f → f.path = path → f.question = none
  parts : t.Idle path → (t'.holding policy path).parts = (t.holding policy path).parts ∨
    t'.Reopened t.flights.length path

lemma Turn.object_isSome {r : Request} {s s' : Stage} {h h' : Holding} {q : Call} {a : q.Answer}
    (ht : Turn policy r forced s h q a s' h') (ho : h.object.isSome = true) : h'.object.isSome = true := by
  cases ht with
  | assembled _ _ _ _ => rfl
  | _ => exact ho

lemma Turn.record_isSome {r : Request} {s s' : Stage} {h h' : Holding} {q : Call} {a : q.Answer}
    (ht : Turn policy r forced s h q a s' h') (hr : h.record.isSome = true) : h'.record.isSome = true := by
  cases ht with
  | registered _ => rfl
  | marked _ => rfl
  | _ => exact hr

lemma Turn.parts_of_late {r : Request} {s s' : Stage} {h h' : Holding} {q : Call} {a : q.Answer} {reopens : Prop}
    (ht : Turn policy r forced s h q a s' h') (hl : s.Late reopens) : h'.parts = h.parts ∨ reopens := by
  cases ht with
  | stored _ _ | assembled _ _ _ _ => exact .inr hl
  | _ => exact .inl rfl

namespace Traffic.Sealed

lemma refl (ho : (t.holding policy path).object.isSome = true) (hr : (t.holding policy path).record.isSome = true) :
    t.Sealed policy path t := by
  refine ⟨Nat.le_refl _, ho, hr, fun i g hi hg => ?_, fun hi i f _ hf => hi f (List.mem_of_getElem? hf), fun _ => .inl rfl⟩
  rw [List.getElem?_eq_none hi] at hg
  cases hg

lemma late_turn {i : Nat} {f f' : Flight} {q : Call} {a : q.Answer} (h : t.Sealed policy path u)
    (ht : u.Turns policy forced i f f' q a t') {j : Nat} {g : Flight} (hj : t.flights.length ≤ j)
    (hg : t'.flights[j]? = some g) (hp : g.path = path) :
    g.rest = none ∨ ∃ s, g.Stands policy s ∧ s.Late (g.request.Reopens (t'.exchangesOf j)) := by
  rw [ht.flights] at hg
  by_cases hij : j = i
  · subst hij
    rw [List.getElem?_set_self (List.getElem?_eq_some_iff.mp ht.here).1] at hg
    obtain rfl := Option.some.inj hg
    have hpath : f'.path = f.path := congrArg Request.path ht.request
    rcases h.late j f hj ht.here (hpath.symm.trans hp) with hn | ⟨s, hs, hl⟩
    · exact absurd hn (Flight.rest_ne_none ht.question)
    · obtain ⟨s', hs', hturn⟩ := ht.stage s hs
      rw [ht.exchangesOf_self, ht.request]
      refine .inr ⟨s', hs', hturn.late hs.fits ?_ hl⟩
      rw [← hpath, hp]
      exact h.record
  · rw [List.getElem?_set_ne (Ne.symm hij)] at hg
    rw [ht.exchangesOf_of_ne hij]
    exact h.late j g hj hg hp

lemma parts_turn {i : Nat} {f f' : Flight} {q : Call} {a : q.Answer} (h : t.Sealed policy path u)
    (ht : u.Turns policy forced i f f' q a t') (hi : t.Idle path) :
    (t'.holding policy path).parts = (u.holding policy path).parts ∨ u.Reopened t.flights.length path := by
  by_cases hp : path = f.path
  · subst hp
    -- an upload from before has no call left that could be answered
    rcases Nat.lt_or_ge i t.flights.length with hlt | hge
    · cases (h.early hi i f hlt ht.here rfl).symm.trans ht.question
    · rcases h.late i f hge ht.here rfl with hn | ⟨s, hs, hl⟩
      · exact absurd hn (Flight.rest_ne_none ht.question)
      · obtain ⟨s', _, hturn⟩ := ht.stage s hs
        exact (hturn.parts_of_late hl).imp_right fun hr => ⟨i, f, hge, ht.here, rfl, hr⟩
  · rw [ht.elsewhere path hp]
    exact .inl rfl

lemma turn {i : Nat} {f f' : Flight} {q : Call} {a : q.Answer} (hst : u.Staged policy) (h : t.Sealed policy path u)
    (ht : u.Turns policy forced i f f' q a t') : t.Sealed policy path t' := by
  have hp : Progress policy forced (fun _ => True) u t' := .turn ht
  obtain ⟨s, hs⟩ := ht.stands hst
  obtain ⟨s', hs', hturn⟩ := ht.stage s hs
  have hkept : (t'.holding policy path).object.isSome = true ∧ (t'.holding policy path).record.isSome = true := by
    by_cases hp : path = f.path
    · subst hp
      exact ⟨hturn.object_isSome h.object, hturn.record_isSome h.record⟩
    · rw [ht.elsewhere path hp]
      exact ⟨h.object, h.record⟩
  refine ⟨?_, hkept.1, hkept.2, fun j g hj hg hgp => h.late_turn ht hj hg hgp, fun hi j g hj hg hgp => ?_, fun hi => ?_⟩
  · rw [ht.flights, List.length_set]
    exact h.flights
  · rw [ht.flights] at hg
    by_cases hij : j = i
    · subst hij
      rw [List.getElem?_set_self (List.getElem?_eq_some_iff.mp ht.here).1] at hg
      obtain rfl := Option.some.inj hg
      have hpath : f'.path = f.path := congrArg Request.path ht.request
      cases (h.early hi j f hj ht.here (hpath.symm.trans hgp)).symm.trans ht.question
    · rw [List.getElem?_set_ne (Ne.symm hij)] at hg
      exact h.early hi j g hj hg hgp
  · rcases h.parts_turn ht hi with he | hreopened
    · rw [he]
      exact (h.parts hi).imp_right fun hreopened => hreopened.step hp
    · exact .inr (hreopened.step hp)

lemma step (hst : u.Staged policy) (h : t.Sealed policy path u) (hp : Progress policy forced adm u t') :
    t.Sealed policy path t' := by
  have hreopened := fun hr : u.Reopened t.flights.length path => hr.step hp
  cases hp with
  | launch r _ =>
    refine ⟨?_, h.object, h.record, fun i g hi hg hgp => ?_, fun hi i f hlt hf => ?_,
      fun hi => (h.parts hi).imp_right hreopened⟩
    · rw [launch, List.length_append]
      exact Nat.le_add_right_of_le h.flights
    · rw [launch, List.getElem?_append] at hg
      split at hg
      · exact h.late i g hi hg hgp
      · obtain rfl := List.mem_singleton.mp (List.mem_of_getElem? hg)
        exact .inr ⟨_, Flight.stands_launch policy r, Stage.late_start _⟩
    · rw [launch, List.getElem?_append_left (hlt.trans_le h.flights)] at hf
      exact h.early hi i f hlt hf
  | drop _ _ _ =>
    refine ⟨?_, h.object, h.record, fun i g hi hg hgp => ?_, fun hi i f hlt hf hfp => ?_,
      fun hi => (h.parts hi).imp_right hreopened⟩
    · rw [Traffic.drop, List.length_set]
      exact h.flights
    · rw [Traffic.drop, List.getElem?_set] at hg
      split at hg
      · split at hg
        · obtain rfl := Option.some.inj hg
          exact .inl rfl
        · cases hg
      · exact h.late i g hi hg hgp
    · rw [Traffic.drop, List.getElem?_set] at hf
      split at hf
      · split at hf
        · obtain rfl := Option.some.inj hf
          rfl
        · cases hf
      · exact h.early hi i f hlt hf hfp
  | turn ht => exact h.turn hst ht

lemma of_steps (h : Reachable policy b t) (hs : Relation.ReflTransGen (Step policy) t t')
    (ho : (t.holding policy path).object.isSome = true) (hr : (t.holding policy path).record.isSome = true) :
    t.Sealed policy path t' := by
  induction hs with
  | refl => exact .refl ho hr
  | @tail u _ hs hstep ih =>
    have hu : Reachable policy b u := h.trans hs
    exact ih.step hu.staged (hstep.progress_any hu.staged)

end Traffic.Sealed

lemma Reachable.requests_subset (h : Reachable policy b t) (hs : Relation.ReflTransGen (Step policy) t t') :
    t.requests ⊆ t'.requests := by
  induction hs with
  | refl => exact fun _ => id
  | @tail u _ hs hstep ih =>
    have hu : Reachable policy b u := h.trans hs
    exact List.Subset.trans ih (hstep.progress_any hu.staged).requests_subset

/-- Whatever comes after the completion of a file leaves its object as it is, and only a chunk that opens the
upload again is answered as if more were expected, or leaves a part. -/
structure Traffic.Lasts (t : Traffic) (policy : UploadPolicy) (path : String) (t' : Traffic) : Prop where
  object : ∃ o, (t.holding policy path).object = some o ∧ (t'.holding policy path).object = some o
  continuing : ∀ i f, t.flights.length ≤ i → t'.flights[i]? = some f → f.path = path →
    f.outcome = some (.ok .continuing) → f.request.Reopens (t'.exchangesOf i)
  parts : t.Idle path → ¬ t'.Reopened t.flights.length path →
    (t'.holding policy path).parts = (t.holding policy path).parts

theorem Reachable.lasts (hv : b.holding policy.keyRoot path = .vacant) (h : Reachable policy b t)
    (hdone : ∃ f ∈ t.flights, f.path = path ∧ ∃ c, f.outcome = some (.ok c) ∧ c.allStored = true)
    (hs : Relation.ReflTransGen (Step policy) t t') (ha : ∀ r ∈ t'.requests, Agreed path total r) :
    t.Lasts policy path t' := by
  have hc := h.course fun r hr => ha r (h.requests_subset hs hr)
  obtain ⟨f, hf, rfl, c, hout, hall⟩ := hdone
  have hobject := hc.object_of_outcome hf hout hall
  obtain ⟨o, ho⟩ := Option.isSome_iff_exists.mp hobject
  have hsealed : t.Sealed policy f.path t' := .of_steps h hs hobject (hc.record_of_object hv hobject)
  refine ⟨⟨o, ho, ?_⟩, fun i g hi hg hp hout => ?_, fun hi hn => ?_⟩
  · exact h.kept (fun hc ht hp => ht.object_kept hp hv hc) hs ha ho
  · rcases hsealed.late i g hi hg hp with hn | ⟨s, hs, hl⟩
    · simp [Flight.outcome, hn] at hout
    · rw [hs.outcome] at hout
      cases s <;> cases hout
      exact hl
  · exact (hsealed.parts hi).resolve_right hn

section

def headless : Responder
  | .storage (.head _), b => (.error (.backend "lost"), b)
  | q, b => Backends.respond q b

lemma possible_headless : headless.Possible := by
  intro q b
  cases q with
  | storage c =>
    cases c with
    | head path => exact .inr ⟨_, ⟨_, rfl⟩, rfl⟩
    | _ => exact .inl rfl
  | _ => exact .inl rfl

lemma ends_headless {b : Backends} {h : Holding} (hb : b.holding none "a" = h)
    (hc : (h.parts.insert 3 (Request.least 3 3).payload).count < 3) :
    (Stage.start ⟨none, .part⟩ (.least 3 3)).Ends ⟨none, .part⟩ (.least 3 3) headless b (.ok .continuing)
      { h with parts := h.parts.insert 3 (Request.least 3 3).payload } := by
  subst hb
  have hbody : (Request.least 3 3).chunk.body (Request.least 3 3).payload none = .ok (Request.least 3 3).payload := rfl
  have hput : Backends.respond (.storage (.put "a" (Request.least 3 3).chunk (Request.least 3 3).payload none)) b = _ :=
    Backends.respond_put (Request.least_sizeAdmissible 3 3) hbody
  rw [Backends.place_of_lt hc] at hput
  exact .look rfl rfl (.last rfl hput (b.holding_insert_parts "a" _) rfl)

lemma exists_second_again : ∃ t t', Reachable ⟨none, .part⟩ (.withKeys []) t ∧
    t.flights = [⟨.least 1 3, some (.done (.ok .continuing))⟩, ⟨.least 2 3, some (.done (.ok .continuing))⟩,
      ⟨.least 3 3, some (.done (.ok .completed))⟩] ∧
    (t.holding ⟨none, .part⟩ "a").parts = ∅ ∧ Relation.ReflTransGen (Step ⟨none, .part⟩) t t' ∧
    t'.flights = t.flights ++ [⟨.least 2 3, some (.done (.ok .continuing))⟩] ∧
    (t'.holding ⟨none, .part⟩ "a").parts.numbers = [2] := by
  have hin : ∀ n, 1 ≤ n ∧ n ≤ 3 → (Request.least n 3).chunk.InRange :=
    fun _ h => ⟨h.1, h.2, (by decide : 3 ≤ maxChunks)⟩
  have hsize := fun n => Request.least_sizeAdmissible n 3
  have bare : ∀ {h : Holding}, h.Opens ⟨none, .part⟩ none := rfl
  have at_a : ∀ {t t' : Traffic} {h : Holding}, t'.holding ⟨none, .part⟩ =
      Function.update (t.holding ⟨none, .part⟩) "a" h → t'.holding ⟨none, .part⟩ "a" = h :=
    fun ht => (congrFun ht "a").trans (Function.update_self _ _ _)
  obtain ⟨t₁, hs₁, hf₁, hh₁⟩ := Request.steps_least ⟨none, .part⟩ none (.quiet (.withKeys []))
    (hin 1 (by decide)) (by decide) rfl rfl rfl
  obtain ⟨t₂, hs₂, hh₂, hf₂⟩ := (Request.leaves_stored ⟨none, .part⟩ (b := t₁.backends)
    (r := .least 2 3) hh₁ (hin 2 (by decide)) rfl (.inl rfl) bare (hsize 2) rfl (by decide)).steps
  obtain ⟨t₃, hs₃, hh₃, hf₃⟩ := (Request.leaves_completed ⟨none, .part⟩ (b := t₂.backends)
    (r := .least 3 3) (at_a hh₂) (hin 3 (by decide)) rfl (.inr rfl) bare (hsize 3) rfl (by decide) rfl rfl).steps
  obtain ⟨t₄, hs₄, hh₄, hf₄⟩ := (Request.leaves_stored ⟨none, .part⟩ (b := t₃.backends)
    (r := .least 2 3) (at_a hh₃) (hin 2 (by decide)) rfl (.inl rfl) bare (hsize 2) rfl (by decide)).steps
  refine ⟨t₃, t₄, (hs₁.trans hs₂).trans hs₃, ?_, ?_, hs₄, hf₄, ?_⟩
  · rw [hf₃, hf₂, hf₁]
    rfl
  · rw [at_a hh₃]
  · rw [at_a hh₄]
    rfl

theorem reopened_lasts : ∃ t t', Reachable ⟨none, .part⟩ (.withKeys []) t ∧
    t.requests = [.least 1 3, .least 2 3, .least 3 3] ∧ Relation.ReflTransGen (Step ⟨none, .part⟩) t t' ∧
    t'.flights = t.flights ++ [⟨.least 2 3, some (.done (.ok .continuing))⟩,
      ⟨.least 3 3, some (.done (.ok .continuing))⟩] ∧ t.Lasts ⟨none, .part⟩ "a" t' := by
  obtain ⟨t, t₁, hreach, hf, -, hs₁, hf₁, hparts⟩ := exists_second_again
  -- the last chunk comes after the second, and its probe fails
  obtain ⟨t₂, hs₂, hb₂, hf₂⟩ := steps_of_launch ⟨none, .part⟩ possible_headless t₁ (.least 3 3)
  have hcount : ((t₁.holding ⟨none, .part⟩ "a").parts.insert 3 (Request.least 3 3).payload).count < 3 := by
    have hle := Parts.count_insert_le (t₁.holding ⟨none, .part⟩ "a").parts 3 (Request.least 3 3).payload
    rw [← Parts.length_numbers (t₁.holding ⟨none, .part⟩ "a").parts, hparts] at hle
    exact Nat.lt_succ_of_le hle
  obtain ⟨b', hrun, -⟩ := ends_headless rfl hcount _ procedure_leads
  rw [hrun] at hf₂
  have hrequests : t₂.requests = [.least 1 3, .least 2 3, .least 3 3, .least 2 3, .least 3 3] := by
    rw [Traffic.requests, hf₂, hf₁, hf]
    rfl
  have hdone : ∃ f ∈ t.flights, f.path = "a" ∧ ∃ c, f.outcome = some (.ok c) ∧ c.allStored = true := by
    rw [hf]
    exact ⟨⟨.least 3 3, some (.done (.ok .completed))⟩, by simp, rfl, .completed, rfl, rfl⟩
  have hagreed : ∀ r ∈ t₂.requests, Agreed "a" 3 r := by
    rw [hrequests]
    simp only [List.forall_mem_cons]
    exact ⟨fun _ => rfl, fun _ => rfl, fun _ => rfl, fun _ => rfl, fun _ => rfl, List.forall_mem_nil _⟩
  refine ⟨t, t₂, hreach, ?_, hs₁.trans hs₂, ?_, hreach.lasts rfl hdone (hs₁.trans hs₂) hagreed⟩
  · rw [Traffic.requests, hf]
    rfl
  · rw [hf₂, hf₁]
    simp

/-- No upload is under way when the second chunk comes once more. -/
theorem reopened_by_second_chunk : ∃ t t', Reachable ⟨none, .part⟩ (.withKeys []) t ∧
    (⟨.least 3 3, some (.done (.ok .completed))⟩ : Flight) ∈ t.flights ∧ t.Idle "a" ∧
    (t.holding ⟨none, .part⟩ "a").parts = ∅ ∧ Relation.ReflTransGen (Step ⟨none, .part⟩) t t' ∧
    t'.requests = [.least 1 3, .least 2 3, .least 3 3, .least 2 3] ∧
    t'.flights = t.flights ++ [⟨.least 2 3, some (.done (.ok .continuing))⟩] ∧
    (t'.holding ⟨none, .part⟩ "a").parts.numbers = [2] := by
  obtain ⟨t, t', hreach, hf, hempty, hs, hf', hparts⟩ := exists_second_again
  refine ⟨t, t', hreach, by simp [hf], ?_, hempty, hs, ?_, hf', hparts⟩
  · rw [Traffic.Idle, hf]
    simp only [List.forall_mem_cons]
    exact ⟨fun _ => rfl, fun _ => rfl, fun _ => rfl, List.forall_mem_nil _⟩
  · rw [Traffic.requests, hf', hf]
    rfl

end

end ResumableUpload.Upload
