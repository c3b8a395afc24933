import ResumableUpload.Proofs.Upload.Contents

/-! Which parts an object is put together from when uploads for one path differ on the number of chunks. They
are counted and not looked at: as many parts as the last upload asks for are enough. -/

namespace ResumableUpload.Upload

variable {policy : UploadPolicy} {b : Backends} {t t' : Traffic} {x : Exchange}

/-- An exchange puts the object of its path together from the parts that are there and its own. -/
structure Traffic.Gathers (policy : UploadPolicy) (t t' : Traffic) (x : Exchange) (parts : Parts) : Prop where
  put : ∃ key body, x.call = .storage (.put x.path x.request.chunk x.request.payload key) ∧
    x.request.chunk.body x.request.payload key = .ok body ∧
    parts = (t.holding policy x.path).parts.insert x.request.chunk.current body
  object : (t'.holding policy x.path).object =
    some ⟨parts.assembled, ObjectStore.objectTag parts.assembled parts.count⟩

lemma Step.turns (h : Reachable policy b t) (hs : Step policy t t') (hx : t'.exchanges = x :: t.exchanges) :
    ∃ i f f' q a, x = ⟨f.request, q, a⟩ ∧ t.Turns policy True i f f' q a t' := by
  have hne : t.exchanges ≠ x :: t.exchanges := fun he => by simpa using congrArg List.length he
  cases hs.progress_any h.staged with
  | launch r _ => exact absurd hx hne
  | drop _ _ _ => exact absurd hx hne
  | @turn i f f' q a _ ht =>
    have he := hx.symm.trans ht.exchanges
    exact ⟨i, f, f', q, a, (List.cons.inj he).1, ht⟩

theorem Step.gathers (hv : b.holding policy.keyRoot x.path = .vacant) (h : Reachable policy b t)
    (hs : Step policy t t') (hx : t'.exchanges = x :: t.exchanges) (hc : x.completes = true) :
    ∃ parts, t.Gathers policy t' x parts ∧ (∀ e ∈ parts.entries, t'.Supplies x.path e) ∧
      x.request.chunk.current ∈ parts.numbers ∧ (∀ n ∈ parts.numbers, 1 ≤ n ∧ n ≤ maxChunks) ∧
      x.request.chunk.total ≤ parts.count ∧
      (parts.numbers = List.range' 1 x.request.chunk.total ↔
        ∀ n ∈ parts.numbers, n ≤ x.request.chunk.total) := by
  obtain ⟨i, f, f', q, a, rfl, ht⟩ := hs.turns h hx
  have hcourse := h.course (fun _ _ => trivial : ∀ r ∈ t.requests, (fun _ => True) r)
  cases ht.content h.staged with
  | same _ _ hn => cases hn.symm.trans hc
  | stored _ heq _ _ _ _ =>
    rw [heq] at hc
    cases hc
  | @assembled key body parts o hin heq hb hparts hcount ho _ hobject =>
    have hmem := ht.exchange
    rw [heq] at hmem
    have hsupplied : ∀ e ∈ parts.entries, t'.Supplies f.path e := by
      rw [hparts]
      exact supplies_insert (hcourse.filled hv).parts ht.grows (ht.grows.1 (Traffic.mem_requests ht.mem)) hin hmem hb
    have hbounds : ∀ n ∈ parts.numbers, 1 ≤ n ∧ n ≤ maxChunks := by
      intro n hn
      obtain ⟨body, he⟩ := Parts.mem_numbers.mp hn
      obtain ⟨r, _, hr, _, hin, _⟩ := hsupplied _ he
      rw [← show r.chunk.current = n from hr]
      exact ⟨hin.1, hin.2.1.trans hin.2.2⟩
    refine ⟨parts, ⟨⟨key, body, congrArg Exchange.call heq, hb, hparts⟩, ?_⟩, hsupplied, ?_, hbounds, hcount, ?_⟩
    · exact hobject.trans (congrArg some ho)
    · rw [hparts]
      exact Parts.mem_numbers_insert.mpr (.inl rfl)
    · exact Parts.numbers_eq_range_iff hcount fun n hn => (hbounds n hn).1

section

def lastOfThree : Request := .plain "a" 3 3 ⟨#[9]⟩

def lastOfTwo : Request := .plain "a" 2 2 ⟨#[8]⟩

def unequalTotals : Traffic := .played ⟨none, .part⟩ [lastOfThree, lastOfTwo] [0, 0, 1]

lemma smooth_unequalTotals : Smooth ⟨none, .part⟩ (.withKeys []) unequalTotals := .played _ _

def bothParts : Parts := ((∅ : Parts).insert 3 ⟨#[9]⟩).insert 2 ⟨#[8]⟩

def assembling : Exchange where
  request := lastOfTwo
  call := .storage (.put "a" lastOfTwo.chunk lastOfTwo.payload none)
  answer := .ok ⟨true, ObjectStore.objectTag bothParts.assembled bothParts.count⟩

lemma move_unequalTotals : Move ⟨none, .part⟩ unequalTotals (unequalTotals.answer 1) :=
  .of_question (i := 1) rfl rfl

theorem unequalTotals_gathers : ∃ parts,
    unequalTotals.Gathers ⟨none, .part⟩ (unequalTotals.answer 1) assembling parts ∧
      (∀ e ∈ parts.entries, (unequalTotals.answer 1).Supplies "a" e) ∧ 2 ∈ parts.numbers ∧ 2 ≤ parts.count ∧
        (parts.numbers = [1, 2] ↔ ∀ n ∈ parts.numbers, n ≤ 2) := by
  obtain ⟨parts, hg, hs, hm, _, hc, hn⟩ :=
    Step.gathers rfl smooth_unequalTotals.reachable (.inl move_unequalTotals) rfl rfl
  exact ⟨parts, hg, hs, hm, hc, hn⟩

/-- Two parts are enough for an upload of two chunks, whichever they are. -/
theorem gathers_without_first : ¬ ∀ policy b t t' x parts, b.holding policy.keyRoot x.path = .vacant →
    Reachable policy b t → Step policy t t' → t'.exchanges = x :: t.exchanges → x.completes = true →
    t.Gathers policy t' x parts → ∀ n, 1 ≤ n → n ≤ x.request.chunk.total → n ∈ parts.numbers := by
  intro h
  have hgathers : unequalTotals.Gathers ⟨none, .part⟩ (unequalTotals.answer 1) assembling bothParts :=
    ⟨⟨none, ⟨#[8]⟩, rfl, rfl, rfl⟩, rfl⟩
  have hn : 1 ∈ bothParts.numbers := h _ (.withKeys []) _ _ _ _ rfl smooth_unequalTotals.reachable
    (.inl move_unequalTotals) rfl rfl hgathers 1 (by decide) (by decide)
  exact absurd hn (by decide)

end

end ResumableUpload.Upload
