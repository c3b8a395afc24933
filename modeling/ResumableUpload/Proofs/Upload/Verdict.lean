import ResumableUpload.Proofs.Text.Trim
import ResumableUpload.Proofs.Upload.Itinerary
import ResumableUpload.Proofs.Upload.Retention

/-! What an upload answers, told by its exchanges alone. Once the storage has said that the object is complete, an
upload does not fail any more: what goes wrong then is told apart from what is not stored. -/

namespace ResumableUpload.Upload

namespace Exchange

def failure : Exchange → Option UploadError
  | ⟨_, .registry (.register ..), .error e⟩ => some e
  | ⟨_, .freshKey, .error e⟩ => some (.keyGeneration e)
  | ⟨_, .secret (.write ..), .error e⟩ => some (.secretWrite e.message)
  | ⟨_, .secret (.read ..), .error e⟩ => some (.secretRead e.message)
  | ⟨_, .secret (.read ..), .ok text⟩ =>
    match EncryptionKey.ofHex text with
    | .error e => some e
    | .ok _ => none
  | ⟨_, .storage (.put ..), .error e⟩ => some (.ofStorage e)
  | _ => none

def markFailure : Exchange → Option UploadError
  | ⟨_, .registry (.mark ..), .error e⟩ => some e
  | _ => none

def waits : Exchange → Bool
  | ⟨_, .storage (.put ..), .ok receipt⟩ => !receipt.complete
  | _ => false

inductive Settles (x : Exchange) : Except UploadError Completion → Prop
  | failed {e : UploadError} : x.failure = some e → Settles x (.error e)
  | waiting : x.waits = true → Settles x (.ok .continuing)
  | marked : x.marks = true → Settles x (.ok .completed)
  | unmarked {e : UploadError} : x.markFailure = some e → Settles x (.ok (.unrecorded e))

end Exchange

namespace Request

variable (policy : UploadPolicy) (r : Request)

def Announced (log : List Exchange) : Prop :=
  (∃ x ∈ log, x.completes = true) ∨
    r.Probes ∧ ∃ rest head, log = rest ++ [⟨r, .storage (.head r.path), .ok head⟩]

def reported (path : String) : Except StorageError ObjectHead → Except UploadError String
  | .error e => .error (.ofStorage e)
  | .ok head =>
    match head.etag with
    | some etag => .ok etag
    | none => .error (.storage s!"no ETag for {path}")

/-- What the latest exchange says of the tag of the object that was just found or made. -/
inductive Tagged : List Exchange → Except UploadError String → Prop
  | found {head : ObjectHead} : r.Probes →
      Tagged [⟨r, .storage (.head r.path), .ok head⟩] (reported r.path (.ok head))
  | part {earlier : List Exchange} {path : String} {chunk : Chunk} {payload : Bytes} {key : Option EncryptionKey}
      {receipt : PartReceipt} : policy.digest = .part → receipt.complete = true →
      Tagged (⟨r, .storage (.put path chunk payload key), .ok receipt⟩ :: earlier) (.ok receipt.etag)
  | look {earlier : List Exchange} {x : Exchange} (answer : Except StorageError ObjectHead) :
      policy.digest = .head → x.completes = true →
      Tagged (⟨r, .storage (.head r.path), answer⟩ :: x :: earlier) (reported r.path answer)

/-- The result of an upload in terms of what was answered to it. -/
structure Verdict (log : List Exchange) (result : Except UploadError Completion) : Prop where
  completed : result = .ok .completed ↔ ∃ x ∈ log, x.marks = true
  unrecorded : ∀ e, result = .ok (.unrecorded e) ↔
    r.Announced log ∧ (r.Tagged policy log (.error e) ∨ ∃ x ∈ log, x.markFailure = some e)
  continuing : result = .ok .continuing ↔ ∃ x ∈ log, x.waits = true
  refused : ∀ e, result = .error e ↔ r.chunk.checkPosition = .error e ∨ ∃ x ∈ log, x.failure = some e
  announced : r.Announced log ↔ ∃ c, result = .ok c ∧ c.allStored = true
  tag : ∀ x ∈ log, ∀ {authorization path etag}, x.call = .registry (.mark authorization path etag) →
    ∃ earlier raw, log = x :: earlier ∧ r.Tagged policy earlier (.ok raw) ∧ ETag.Strips raw etag

inductive Onto (x : Exchange) (log : List Exchange) : Stage → Prop
  | settled {result : Except UploadError Completion} : x.Settles result → Onto x log (.finished result)
  | tagged {d : Except UploadError String} : r.Tagged policy (x :: log) d →
      Onto x log (.completing (ETag.unquote <$> d))
  | inspected : policy.digest = .head → x.completes = true → Onto x log .inspect
  | onward {s : Stage} : ¬ s.PastObject → (∀ result, s ≠ .finished result) → Onto x log s

structure Told (log : List Exchange) (s : Stage) : Prop where
  position : ∀ e, r.chunk.checkPosition = .error e → s = .finished (.error e)
  settled : ∀ x ∈ log, ∀ result, x.Settles result → s = .finished result
  cause : ∀ result, s = .finished result → (∃ x ∈ log, x.Settles result) ∨
    (∃ e, result = .error e ∧ r.chunk.checkPosition = .error e) ∨
    ∃ e, result = .ok (.unrecorded e) ∧ r.Tagged policy log (.error e)
  tagged : ∀ d, r.Tagged policy log d → s = .completing (ETag.unquote <$> d)
  announced : r.Announced log ↔ s.PastObject
  probing : s = .probe → log = []
  inspecting : s = .inspect → policy.digest = .head ∧ ∃ x earlier, log = x :: earlier ∧ x.completes = true
  marking : ∀ etag, s = .mark etag → ∃ raw, r.Tagged policy log (.ok raw) ∧ etag = ETag.unquote raw
  marks : ∀ x ∈ log, ∀ {authorization path etag}, x.call = .registry (.mark authorization path etag) →
    ∃ earlier raw, log = x :: earlier ∧ r.Tagged policy earlier (.ok raw) ∧ ETag.Strips raw etag

end Request

namespace Stage.Next

variable {policy : UploadPolicy} {r : Request} {s s' : Stage} {q : Call} {a : q.Answer} {e : UploadError}
  {result : Except UploadError Completion}

lemma of_failure (hn : s.Next policy r q a s') (h : Exchange.failure ⟨r, q, a⟩ = some e) :
    s' = .finished (.error e) := by
  cases hn with
  | garbled hk => simp_all [Exchange.failure]
  | fetched hk => simp [Exchange.failure, hk] at h
  | unregistered _ | undrawn _ | undeposited _ | unfetched _ | unstored _ =>
    simp only [Exchange.failure, Option.some.injEq] at h
    rw [h]
  | _ => simp [Exchange.failure] at h

lemma of_waits (hn : s.Next policy r q a s') (h : Exchange.waits ⟨r, q, a⟩ = true) : s' = .returned .continuing := by
  cases hn with
  | stored _ => rfl
  | assembled hc => simp [Exchange.waits, hc] at h
  | _ => cases h

lemma of_marks (hn : s.Next policy r q a s') (h : Exchange.marks ⟨r, q, a⟩ = true) : s' = .returned .completed := by
  cases hn with
  | marked => rfl
  | _ => cases h

lemma of_markFailure (hn : s.Next policy r q a s') (h : Exchange.markFailure ⟨r, q, a⟩ = some e) :
    s' = .returned (.unrecorded e) := by
  cases hn with
  | unmarked _ =>
    cases h
    rfl
  | _ => simp [Exchange.markFailure] at h

lemma of_settles (hn : s.Next policy r q a s') (h : Exchange.Settles ⟨r, q, a⟩ result) : s' = .finished result := by
  cases h with
  | failed h => exact hn.of_failure h
  | waiting h => exact hn.of_waits h
  | marked h => exact hn.of_marks h
  | unmarked h => exact hn.of_markFailure h

end Stage.Next

namespace Request

variable {policy : UploadPolicy} {r : Request} {log : List Exchange} {s s' : Stage} {q : Call} {a : q.Answer}

lemma unquote_reported (path : String) (head : ObjectHead) :
    ETag.unquote <$> reported path (.ok head) = etagOf path head := by
  rw [reported, etagOf]
  cases head.etag <;> rfl

lemma announced_cons {x : Exchange} : r.Announced (x :: log) ↔ r.Announced log ∨ x.completes = true ∨
    r.Probes ∧ log = [] ∧ ∃ head, x = ⟨r, .storage (.head r.path), .ok head⟩ := by
  constructor
  · rintro (⟨y, hy, hc⟩ | ⟨hp, rest, head, hlog⟩)
    · rcases List.mem_cons.mp hy with rfl | hy
      · exact .inr (.inl hc)
      · exact .inl (.inl ⟨y, hy, hc⟩)
    · cases rest with
      | nil =>
        cases hlog
        exact .inr (.inr ⟨hp, rfl, head, rfl⟩)
      | cons y rest =>
        cases hlog
        exact .inl (.inr ⟨hp, rest, head, rfl⟩)
  · rintro ((⟨y, hy, hc⟩ | ⟨hp, rest, head, rfl⟩) | hc | ⟨hp, rfl, head, rfl⟩)
    · exact .inl ⟨y, List.mem_cons_of_mem _ hy, hc⟩
    · exact .inr ⟨hp, x :: rest, head, rfl⟩
    · exact .inl ⟨x, List.mem_cons_self, hc⟩
    · exact .inr ⟨hp, [], head, rfl⟩

lemma onward_entry {x : Exchange} : r.Onto policy x log (.entry policy r) := by
  refine .onward (Stage.not_pastObject_of_opening Stage.opening_entry) ?_
  exact Stage.entry_of (P := fun s => ∀ result, s ≠ .finished result) (fun _ _ => nofun) (fun _ _ _ => nofun)
    fun _ _ _ _ => nofun

lemma onward_keyed {x : Exchange} : r.Onto policy x log (.keyed policy r) := by
  refine .onward (Stage.not_pastObject_of_opening Stage.opening_keyed) ?_
  exact Stage.keyed_of (P := fun s => ∀ result, s ≠ .finished result) (fun _ _ => nofun) (fun _ _ _ _ => nofun)
    fun _ _ _ _ => nofun

lemma Told.onto (h : r.Told policy log s) (hfits : s.Fits policy r) (hn : s.Next policy r q a s') :
    r.Onto policy ⟨r, q, a⟩ log s' := by
  cases hn with
  | found head =>
    obtain rfl := h.probing rfl
    have htag : r.Onto policy _ [] (.completing (ETag.unquote <$> reported r.path (.ok head))) :=
      .tagged (.found hfits.2)
    rwa [unquote_reported] at htag
  | missing _ => exact onward_entry
  | registered => exact onward_keyed
  | drawn _ | deposited | fetched _ => exact .onward id fun _ => nofun
  | garbled hk => exact .settled (.failed (by simp only [Exchange.failure, hk]))
  | unregistered _ | undrawn _ | undeposited _ | unfetched _ | unstored _ => exact .settled (.failed rfl)
  | stored hc => exact .settled (.waiting (by simp [Exchange.waits, hc]))
  | assembled hc =>
    rw [Stage.assembled]
    cases hd : policy.digest with
    | part => exact .tagged (.part hd hc)
    | head => exact .inspected hd hc
  | inspected head =>
    obtain ⟨hd, x, earlier, rfl, hc⟩ := h.inspecting rfl
    have htag : r.Onto policy _ (x :: earlier) _ := .tagged (.look (.ok head) hd hc)
    rwa [unquote_reported] at htag
  | unseen e =>
    obtain ⟨hd, x, earlier, rfl, hc⟩ := h.inspecting rfl
    exact .tagged (.look (.error e) hd hc)
  | marked => exact .settled (.marked rfl)
  | unmarked _ => exact .settled (.unmarked rfl)

lemma Told.completing_of_tagged {d : Except UploadError String} (h : r.Told policy log s)
    (hn : s.Next policy r q a s') (htag : r.Tagged policy (⟨r, q, a⟩ :: log) d) :
    s' = .completing (ETag.unquote <$> d) := by
  cases htag with
  | found hp =>
    rw [unquote_reported]
    cases hn with
    | found _ => rfl
    | inspected _ =>
      obtain ⟨-, x, earlier, hlog, -⟩ := h.inspecting rfl
      cases hlog
  | part hd hc =>
    cases hn with
    | stored hc' => cases hc'.symm.trans hc
    | assembled _ => rw [Stage.assembled, hd]; rfl
  | look _ _ _ =>
    cases hn with
    | found _ | missing _ => cases h.probing rfl
    | inspected _ => rw [unquote_reported]
    | unseen _ => rfl

lemma Told.announced_next (h : r.Told policy log s) (hfits : s.Fits policy r) (hn : s.Next policy r q a s') :
    r.Announced (⟨r, q, a⟩ :: log) ↔ s'.PastObject := by
  rw [announced_cons, h.announced]
  have hentry : ¬ (Stage.entry policy r).PastObject := Stage.not_pastObject_of_opening Stage.opening_entry
  have hkeyed : ¬ (Stage.keyed policy r).PastObject := Stage.not_pastObject_of_opening Stage.opening_keyed
  have hcompleting : ∀ d, (Stage.completing d).PastObject := by rintro (e | etag) <;> trivial
  cases hn with
  | found head => exact iff_of_true (.inr (.inr ⟨hfits.2, h.probing rfl, head, rfl⟩)) (hcompleting _)
  | missing _ => simpa [Stage.PastObject, Exchange.completes] using hentry
  | registered => simpa [Stage.PastObject, Exchange.completes] using hkeyed
  | stored hc => simp [Stage.PastObject, Exchange.completes, hc, Stage.returned, Completion.allStored]
  | assembled hc =>
    refine iff_of_true (.inr (.inl hc)) ?_
    exact Stage.assembled_of (P := Stage.PastObject) (fun _ => trivial) fun _ => trivial
  | inspected _ => exact iff_of_true (.inl trivial) (hcompleting _)
  | unseen _ | marked | unmarked _ => exact iff_of_true (.inl trivial) rfl
  | _ => simp [Stage.PastObject, Exchange.completes]

lemma exists_settles_of_mark {x : Exchange} {authorization : Option String} {path etag : String}
    (hx : x.call = .registry (.mark authorization path etag)) : ∃ result, x.Settles result := by
  obtain ⟨r, q, a⟩ := x
  cases hx
  cases a with
  | error e => exact ⟨_, .unmarked rfl⟩
  | ok u => exact ⟨_, .marked rfl⟩

lemma Onto.of_finished {x : Exchange} {result : Except UploadError Completion} (h : r.Onto policy x log s)
    (hs : s = .finished result) :
    x.Settles result ∨ ∃ e, result = .ok (.unrecorded e) ∧ r.Tagged policy (x :: log) (.error e) := by
  cases h with
  | settled hx =>
    cases hs
    exact .inl hx
  | @tagged d htag =>
    cases d with
    | error e =>
      cases hs
      exact .inr ⟨e, rfl, htag⟩
    | ok raw => cases hs
  | inspected => cases hs
  | onward _ hopen => exact absurd hs (hopen result)

lemma Onto.of_mark {x : Exchange} {etag : String} (h : r.Onto policy x log s) (hs : s = .mark etag) :
    ∃ raw, r.Tagged policy (x :: log) (.ok raw) ∧ etag = ETag.unquote raw := by
  cases h with
  | settled => cases hs
  | @tagged d htag =>
    cases d with
    | error e => cases hs
    | ok raw =>
      cases hs
      exact ⟨raw, htag, rfl⟩
  | inspected => cases hs
  | onward hpast _ =>
    subst hs
    exact absurd trivial hpast

lemma Onto.of_inspect {x : Exchange} (h : r.Onto policy x log s) (hs : s = .inspect) :
    policy.digest = .head ∧ x.completes = true := by
  cases h with
  | settled => cases hs
  | @tagged d => cases d <;> cases hs
  | inspected hd hc => exact ⟨hd, hc⟩
  | onward hpast _ =>
    subst hs
    exact absurd trivial hpast

lemma Told.next (h : r.Told policy log s) (hfits : s.Fits policy r) (hn : s.Next policy r q a s') :
    r.Told policy (⟨r, q, a⟩ :: log) s' := by
  have hopen : ∀ result, s ≠ .finished result := by
    rintro result rfl
    cases hn
  have honto := h.onto hfits hn
  exact {
    position := fun e he => absurd (h.position e he) (hopen _)
    settled := by
      intro x hx result hs
      rcases List.mem_cons.mp hx with rfl | hx
      · exact hn.of_settles hs
      · exact absurd (h.settled x hx result hs) (hopen _)
    cause := by
      intro result hs
      rcases honto.of_finished hs with hx | hd
      · exact .inl ⟨_, List.mem_cons_self, hx⟩
      · exact .inr (.inr hd)
    tagged := fun d hd => h.completing_of_tagged hn hd
    announced := h.announced_next hfits hn
    probing := fun hs => absurd hs hn.ne_probe
    inspecting := fun hs => ⟨(honto.of_inspect hs).1, _, _, rfl, (honto.of_inspect hs).2⟩
    marking := fun etag hs => honto.of_mark hs
    marks := by
      intro x hx authorization path etag hcall
      rcases List.mem_cons.mp hx with rfl | hx
      · obtain ⟨raw, hraw, rfl⟩ : ∃ raw, r.Tagged policy log (.ok raw) ∧ etag = ETag.unquote raw := by
          cases hn <;> cases hcall <;> exact h.marking etag rfl
        exact ⟨log, raw, rfl, hraw, ETag.unquote_strips raw⟩
      -- an answer to a mark ends the upload, and here it has gone on
      · obtain ⟨result, hs⟩ := exists_settles_of_mark hcall
        exact absurd (h.settled x hx result hs) (hopen _) }

lemma start_eq_finished {result : Except UploadError Completion} (hs : Stage.start policy r = .finished result) :
    ∃ e, result = .error e ∧ r.chunk.checkPosition = .error e := by
  have hentry : Stage.entry policy r ≠ .finished result :=
    Stage.entry_of (P := (· ≠ .finished result)) (fun _ => nofun) (fun _ _ => nofun) fun _ _ _ => nofun
  refine Stage.start_of_position (P := (· = .finished result → _)) (fun e hc hs => ?_) (fun _ _ => nofun)
    (fun _ _ hs => absurd hs hentry) hs
  exact ⟨e, (Stage.finished.inj hs).symm, hc⟩

lemma told_start : r.Told policy [] (.start policy r) := by
  have hopening : (Stage.start policy r).Opening policy := Stage.opening_start
  exact {
    position := fun e he => by rw [Stage.start, he]
    settled := List.forall_mem_nil _
    cause := fun result hs => .inr (.inl (start_eq_finished hs))
    tagged := fun d hd => by cases hd
    announced := by
      refine iff_of_false ?_ (Stage.not_pastObject_of_opening hopening)
      rintro (⟨x, hx, -⟩ | ⟨-, rest, head, hlog⟩)
      · cases hx
      · exact List.append_ne_nil_of_right_ne_nil _ (List.cons_ne_nil _ _) hlog.symm
    probing := fun _ => rfl
    inspecting := fun hs => by
      rw [hs] at hopening
      exact hopening.elim
    marking := fun etag hs => by
      rw [hs] at hopening
      exact hopening.elim
    marks := fun x hx => absurd hx List.not_mem_nil }

end Request

variable {σ : Type} {policy : UploadPolicy} {r : Request} {answers : σ → (q : Call) → q.Answer → σ → Prop} {s s' : σ}
  {log : List Exchange} {result : Except UploadError Completion}

lemma Request.Told.judged (h : r.Told policy log (.finished result)) : r.Verdict policy log result := by
  have hsettled : ∀ {x : Exchange} {result'}, x ∈ log → x.Settles result' → result = result' :=
    fun hx hs => Stage.finished.inj (h.settled _ hx _ hs)
  have hcause := h.cause result rfl
  exact {
    completed := by
      constructor
      · rintro rfl
        obtain ⟨x, hx, ⟨⟩ | ⟨⟩ | hm | ⟨⟩⟩ | ⟨_, ⟨⟩, _⟩ | ⟨_, ⟨⟩, _⟩ := hcause
        exact ⟨x, hx, hm⟩
      · rintro ⟨x, hx, hm⟩
        exact hsettled hx (.marked hm)
    unrecorded := by
      intro e
      constructor
      · rintro rfl
        refine ⟨h.announced.mpr rfl, ?_⟩
        obtain ⟨x, hx, ⟨⟩ | ⟨⟩ | ⟨⟩ | hm⟩ | ⟨_, ⟨⟩, _⟩ | ⟨_, ⟨⟩, hd⟩ := hcause
        · exact .inr ⟨x, hx, hm⟩
        · exact .inl hd
      · rintro ⟨-, hd | ⟨x, hx, hm⟩⟩
        · exact Stage.finished.inj (h.tagged _ hd)
        · exact hsettled hx (.unmarked hm)
    continuing := by
      constructor
      · rintro rfl
        obtain ⟨x, hx, ⟨⟩ | hw | ⟨⟩ | ⟨⟩⟩ | ⟨_, ⟨⟩, _⟩ | ⟨_, ⟨⟩, _⟩ := hcause
        exact ⟨x, hx, hw⟩
      · rintro ⟨x, hx, hw⟩
        exact hsettled hx (.waiting hw)
    refused := by
      intro e
      constructor
      · rintro rfl
        obtain ⟨x, hx, hf | ⟨⟩ | ⟨⟩ | ⟨⟩⟩ | ⟨_, ⟨⟩, hp⟩ | ⟨_, ⟨⟩, _⟩ := hcause
        · exact .inr ⟨x, hx, hf⟩
        · exact .inl hp
      · rintro (hp | ⟨x, hx, hf⟩)
        · exact Stage.finished.inj (h.position e hp)
        · exact hsettled hx (.failed hf)
    announced := by
      refine h.announced.trans ?_
      cases result with
      | error e => exact iff_of_false id nofun
      | ok c => exact ⟨fun hc => ⟨c, rfl, hc⟩, fun ⟨_, rfl, hc⟩ => hc⟩
    tag := h.marks }

lemma Request.Reaches.told {d : Procedure (Except UploadError Completion)} (h : r.Reaches policy answers s log d s') :
    ∃ stage, Leads policy r .returned stage d ∧ r.Told policy log stage := by
  obtain ⟨stage, hleads, -, htold⟩ := h.kept (I := fun log stage _ => r.Told policy log stage) told_start
    fun htold hfits hn _ => htold.next hfits hn
  exact ⟨stage, hleads, htold⟩

/-- Whatever is answered, the result of an upload is told by its exchanges. -/
theorem Request.Reaches.verdict (h : r.Reaches policy answers s log (.done result) s') :
    r.Verdict policy log result := by
  obtain ⟨stage, hleads, htold⟩ := h.told
  obtain rfl := hleads.stage_eq
  exact htold.judged

theorem Request.latter_verdict :
    latter.Reaches ⟨some "keys", .head⟩ (fun s _ _ s' => s = s') () latterLog (.done (.ok .completed)) () ∧
      latter.Verdict ⟨some "keys", .head⟩ latterLog (.ok .completed) :=
  ⟨latter_reaches, latter_reaches.verdict⟩

end ResumableUpload.Upload
