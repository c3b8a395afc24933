import ResumableUpload.Proofs.Text.Trim
import ResumableUpload.Proofs.Upload.Custody
import ResumableUpload.Proofs.Upload.Law
import ResumableUpload.Proofs.Upload.Overtaking

/-! Uploads for one path that agree on the number of chunks, whatever fails between them: the file is registered,
gets its key, is assembled and is marked at most once each. -/

namespace ResumableUpload.Upload

variable {policy : UploadPolicy} {forced : Prop} {b : Backends} {t t' : Traffic} {path : String} {total : Nat}

namespace Traffic.Turns

variable {i : Nat} {f f' : Flight} {q : Call} {a : q.Answer}

lemma object_none_of_le {adm : Request → Prop} (ht : t.Turns policy forced i f f' q a t') (hp : f.path = path)
    (hv : b.holding policy.keyRoot path = .vacant) (h : Course policy forced adm b t)
    (hle : t'.count path Exchange.completes ≤ 1) (hx : Exchange.completes ⟨f.request, q, a⟩ = true) :
    (t.holding policy path).object = none := by
  have hzero := ht.count_eq_zero hp hx hle
  have hobject := h.object_le hv
  rw [hzero] at hobject
  simpa using hobject

lemma object_kept_of_le {adm : Request → Prop} (ht : t.Turns policy forced i f f' q a t') (hp : f.path = path)
    (hv : b.holding policy.keyRoot path = .vacant) (h : Course policy forced adm b t)
    (hle : t'.count path Exchange.completes ≤ 1) {o : StoredObject} (ho : (t.holding policy path).object = some o) :
    (t'.holding policy path).object = some o := by
  subst hp
  cases ht.content h.staged with
  | same _ he _ => rw [he, ho]
  | stored _ _ _ _ _ he => rw [he, ho]
  | assembled _ hx _ _ _ _ _ _ =>
    have hn := ht.object_none_of_le rfl hv h hle (by rw [hx]; rfl)
    rw [hn] at ho
    cases ho

lemma completes_le (ht : t.Turns policy forced i f f' q a t') (hv : b.holding policy.keyRoot path = .vacant)
    (h : Course policy forced (Agreed path total) b t) : t'.count path Exchange.completes ≤ 1 := by
  have hle := Course.completes_le hv (.tail h (.turn ht))
  omega

lemma object_none (ht : t.Turns policy forced i f f' q a t') (hp : f.path = path)
    (hv : b.holding policy.keyRoot path = .vacant) (h : Course policy forced (Agreed path total) b t)
    (hx : Exchange.completes ⟨f.request, q, a⟩ = true) : (t.holding policy path).object = none :=
  ht.object_none_of_le hp hv h (ht.completes_le hv h) hx

lemma object_kept (ht : t.Turns policy forced i f f' q a t') (hp : f.path = path)
    (hv : b.holding policy.keyRoot path = .vacant) (h : Course policy forced (Agreed path total) b t)
    {o : StoredObject} (ho : (t.holding policy path).object = some o) : (t'.holding policy path).object = some o :=
  ht.object_kept_of_le hp hv h (ht.completes_le hv h) ho

end Traffic.Turns

namespace Law

def tagging : Law where
  holding h := ∀ f, h.record = some f → f.state = .uploaded →
    ∃ o, h.object = some o ∧ f.etag = some (ETag.unquote o.etag)
  stage _ s h := ∀ etag, s = .mark etag → ∃ o, h.object = some o ∧ etag = ETag.unquote o.etag
  exchange _ _ := True

end Law

lemma Law.tagging_of_opening {r : Request} {s : Stage} {h : Holding} (hs : s.Opening policy) :
    Law.tagging.stage r s h := by
  rintro etag rfl
  exact hs.elim

lemma Law.tagging_kept (hv : b.holding policy.keyRoot path = .vacant) :
    Law.tagging.Kept policy forced (Agreed path total) b path := by
  refine ⟨fun f hf _ => ?_, fun r h _ _ _ => Law.tagging_of_opening Stage.opening_start, ?_⟩
  · rw [hv] at hf
    cases hf
  intro t t' i f f' q a s s' hc ht hp _ hh hs hturn
  have same : ∀ {h h' : Holding}, h'.object = h.object → Law.tagging.Respects h h' := by
    intro h h' he
    refine ⟨fun r s hs etag hm => ?_, fun _ _ => trivial⟩
    rw [he]
    exact hs etag hm
  have object_none := ht.object_none hp hv hc
  generalize t'.holding policy path = h' at hturn ⊢
  cases hturn with
  | found ho =>
    refine ⟨hh, fun etag he => ?_, trivial, same rfl⟩
    cases he
    exact ⟨_, ho, rfl⟩
  | missing _ => exact ⟨hh, Law.tagging_of_opening Stage.opening_entry, trivial, same rfl⟩
  | registered hr =>
    refine ⟨fun f hf hu => ?_, Law.tagging_of_opening Stage.opening_keyed, trivial, same rfl⟩
    cases hf
    cases hu
  | assembled _ _ _ _ =>
    -- a mark or an upload about to mark would need an object from before
    have hn := object_none rfl
    refine ⟨fun f hf hu => ?_, fun etag he => ?_, trivial, fun r s hs etag hm => ?_, fun _ _ => trivial⟩
    · obtain ⟨o, ho, _⟩ := hh f hf hu
      cases hn.symm.trans ho
    · refine ⟨_, rfl, ?_⟩
      rw [Stage.eq_of_assembled_eq_mark he]
    · obtain ⟨o, ho, _⟩ := hs etag hm
      cases hn.symm.trans ho
  | inspected ho =>
    refine ⟨hh, fun etag he => ?_, trivial, same rfl⟩
    cases he
    exact ⟨_, ho, rfl⟩
  | marked _ =>
    refine ⟨fun f hf _ => ?_, nofun, trivial, same rfl⟩
    cases hf
    obtain ⟨o, ho, he⟩ := hs _ rfl
    exact ⟨o, ho, congrArg some he⟩
  | _ => exact ⟨hh, nofun, trivial, same rfl⟩

structure Traffic.Orderly (policy : UploadPolicy) (t : Traffic) (path : String) (total : Nat) : Prop where
  registered : t.count path Exchange.registers ≤ 1
  keyed : t.count path Exchange.storesKey ≤ 1
  assembled : t.count path Exchange.completes ≤ 1
  marked : t.count path Exchange.marks ≤ 1
  whole : ∀ o, (t.holding policy path).object = some o → ∃ parts : Parts, parts.numbers = List.range' 1 total ∧
    o.content = Bytes.concat parts.bodies ∧ ∀ e ∈ parts.entries, t.Supplies path e
  sealed : ∀ o, (t.holding policy path).object = some o → ∀ t', Relation.ReflTransGen (Step policy) t t' →
    (∀ r ∈ t'.requests, Agreed path total r) → (t'.holding policy path).object = some o
  tagged : ∀ f, (t.holding policy path).record = some f → f.state = .uploaded →
    ∃ o etag, (t.holding policy path).object = some o ∧ f.etag = some etag ∧ ETag.Strips o.etag etag

lemma Traffic.Joins.numbers {o : StoredObject} {parts : Parts} {last : Request} (h : t.Joins path o parts last)
    (ha : ∀ r ∈ t.requests, Agreed path total r) : parts.numbers = List.range' 1 total := by
  apply Parts.numbers_eq_range
  · rw [← ha last h.sent.1 h.path]
    exact h.enough
  · intro n hn
    obtain ⟨body, hb⟩ := Parts.mem_numbers.mp hn
    exact (h.supplied _ hb).bounds ha

theorem Reachable.orderly (hv : b.holding policy.keyRoot path = .vacant) (h : Reachable policy b t)
    (ha : ∀ r ∈ t.requests, Agreed path total r) : t.Orderly policy path total := by
  have hc := h.course ha
  have htagging : Law.tagging.Holds policy path t := (Law.tagging_kept hv).holds hc
  refine ⟨?_, ?_, ?_, hc.marks_le hv, ?_, ?_, ?_⟩
  · have := hc.registers_le hv
    omega
  · have := hc.storesKey_le hv
    omega
  · have := hc.completes_le hv
    omega
  · intro o ho
    obtain ⟨parts, last, hj⟩ := (hc.filled hv).object o ho
    refine ⟨parts, hj.numbers ha, ?_, hj.supplied⟩
    rw [hj.eq]
    exact parts.assembled_eq
  · intro o ho t' hs ha'
    exact h.kept (fun hc ht hp => ht.object_kept hp hv hc) hs ha' ho
  · intro f hf hu
    obtain ⟨o, ho, hetag⟩ := htagging.holding f hf hu
    exact ⟨o, _, ho, hetag, ETag.unquote_strips o.etag⟩

theorem overtaken_orderly : ∃ t, Reachable ⟨some "keys", .head⟩ (.withKeys []) t ∧
    t.requests = [.least 1 2, .latter, .latter] ∧ (t.holding ⟨some "keys", .head⟩ "a").uploaded = true ∧
    (t.holding ⟨some "keys", .head⟩ "a").parts.numbers = [2] ∧ t.Orderly ⟨some "keys", .head⟩ "a" 2 := by
  -- two uploads of the last chunk side by side, over encrypted files
  obtain ⟨t, hs, hf, hparts, -, huploaded⟩ := Request.exists_overtaken ⟨some "keys", .head⟩
  have hrequests : t.requests = [.least 1 2, .latter, .latter] := by
    rw [Traffic.requests, hf]
    rfl
  refine ⟨t, hs.reachable, hrequests, huploaded, hparts, hs.reachable.orderly rfl ?_⟩
  rw [hrequests]
  simp only [List.forall_mem_cons]
  exact ⟨fun _ => rfl, fun _ => rfl, fun _ => rfl, List.forall_mem_nil _⟩

end ResumableUpload.Upload
