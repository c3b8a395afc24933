import ResumableUpload.Proofs.Upload.Course

/-! Where stored bytes come from: every part that waits at a path, and every part of the object there, is the
body of a chunk that was sent for the path and taken by the store. -/

namespace ResumableUpload.Upload

variable {policy : UploadPolicy} {forced : Prop} {adm : Request → Prop} {b : Backends} {t t' : Traffic} {path : String}

def Traffic.Took (t : Traffic) (r : Request) (body : Bytes) : Prop :=
  r ∈ t.requests ∧ r.chunk.InRange ∧ ∃ key receipt,
    ⟨r, .storage (.put r.path r.chunk r.payload key), .ok receipt⟩ ∈ t.exchanges ∧
      r.chunk.body r.payload key = .ok body

def Traffic.Supplies (t : Traffic) (path : String) (e : Nat × Bytes) : Prop :=
  ∃ r, r.path = path ∧ r.chunk.current = e.1 ∧ t.Took r e.2

structure Traffic.Joins (t : Traffic) (path : String) (o : StoredObject) (parts : Parts) (last : Request) : Prop where
  eq : o = ⟨parts.assembled, ObjectStore.objectTag parts.assembled parts.count⟩
  supplied : ∀ e ∈ parts.entries, t.Supplies path e
  path : last.path = path
  sent : last ∈ t.requests ∧ last.chunk.InRange
  enough : last.chunk.total ≤ parts.count
  member : last.chunk.current ∈ parts.numbers

structure Traffic.Filled (policy : UploadPolicy) (t : Traffic) (path : String) : Prop where
  parts : ∀ e ∈ (t.holding policy path).parts.entries, t.Supplies path e
  object : ∀ o, (t.holding policy path).object = some o → ∃ parts last, t.Joins path o parts last

def Traffic.Extends (t' t : Traffic) : Prop := t.requests ⊆ t'.requests ∧ t.exchanges ⊆ t'.exchanges

namespace Traffic

lemma Took.mono {r : Request} {body : Bytes} (h : t.Took r body) (he : t'.Extends t) : t'.Took r body := by
  obtain ⟨hr, hin, key, receipt, hx, hb⟩ := h
  exact ⟨he.1 hr, hin, key, receipt, he.2 hx, hb⟩

lemma Supplies.mono {e : Nat × Bytes} (h : t.Supplies path e) (he : t'.Extends t) : t'.Supplies path e := by
  obtain ⟨r, hp, hc, ht⟩ := h
  exact ⟨r, hp, hc, ht.mono he⟩

lemma Joins.mono {o : StoredObject} {parts : Parts} {last : Request} (h : t.Joins path o parts last)
    (he : t'.Extends t) : t'.Joins path o parts last :=
  ⟨h.eq, fun e hm => (h.supplied e hm).mono he, h.path, ⟨he.1 h.sent.1, h.sent.2⟩, h.enough, h.member⟩

lemma Filled.mono (h : t.Filled policy path) (he : t'.Extends t)
    (hp : (t'.holding policy path).parts = (t.holding policy path).parts)
    (ho : (t'.holding policy path).object = (t.holding policy path).object) : t'.Filled policy path := by
  constructor
  · intro e hm
    rw [hp] at hm
    exact (h.parts e hm).mono he
  · intro o hm
    rw [ho] at hm
    obtain ⟨parts, last, hj⟩ := h.object o hm
    exact ⟨parts, last, hj.mono he⟩

end Traffic

lemma Progress.grows (h : Progress policy forced adm t t') : t'.Extends t := by
  refine ⟨h.requests_subset, ?_⟩
  cases h with
  | launch r _ => exact fun _ => id
  | drop _ _ _ => exact fun _ => id
  | turn ht =>
    rw [ht.exchanges]
    exact List.subset_cons_self _ _

lemma Traffic.mem_requests {f : Flight} (h : f ∈ t.flights) : f.request ∈ t.requests := List.mem_map_of_mem h

inductive Turn.Content (r : Request) (h h' : Holding) (x : Exchange) : Prop
  | same : h'.parts = h.parts → h'.object = h.object → x.completes = false → Content r h h' x
  | stored {key : Option EncryptionKey} {body : Bytes} {etag : String} : r.chunk.InRange →
      x = ⟨r, .storage (.put r.path r.chunk r.payload key), .ok ⟨false, etag⟩⟩ →
      r.chunk.body r.payload key = .ok body → (h.parts.insert r.chunk.current body).count < r.chunk.total →
      h'.parts = h.parts.insert r.chunk.current body → h'.object = h.object → Content r h h' x
  | assembled {key : Option EncryptionKey} {body : Bytes} {parts : Parts} {o : StoredObject} : r.chunk.InRange →
      x = ⟨r, .storage (.put r.path r.chunk r.payload key), .ok ⟨true, o.etag⟩⟩ →
      r.chunk.body r.payload key = .ok body → parts = h.parts.insert r.chunk.current body →
      r.chunk.total ≤ parts.count → o = ⟨parts.assembled, ObjectStore.objectTag parts.assembled parts.count⟩ →
      h'.parts = ∅ → h'.object = some o → Content r h h' x

lemma Exchange.void_of_failure {r : Request} {q : Call} {a : q.Answer} (h : q.IsFailure a) :
    registers ⟨r, q, a⟩ = false ∧ storesKey ⟨r, q, a⟩ = false ∧ completes ⟨r, q, a⟩ = false ∧
      marks ⟨r, q, a⟩ = false := by
  cases q with
  | storage c => cases c <;> obtain ⟨e, rfl⟩ := h <;> exact ⟨rfl, rfl, rfl, rfl⟩
  | registry c => cases c <;> obtain ⟨e, rfl⟩ := h <;> exact ⟨rfl, rfl, rfl, rfl⟩
  | secret c => cases c <;> obtain ⟨e, rfl⟩ := h <;> exact ⟨rfl, rfl, rfl, rfl⟩
  | freshKey => obtain ⟨e, rfl⟩ := h; exact ⟨rfl, rfl, rfl, rfl⟩

lemma Turn.content {r : Request} {s s' : Stage} {h h' : Holding} {q : Call} {a : q.Answer}
    (hs : s.Fits policy r) (ht : Turn policy r forced s h q a s' h') : Turn.Content r h h' ⟨r, q, a⟩ := by
  cases ht with
  | stored hb hc => exact .stored hs.1 rfl hb hc rfl rfl
  | assembled hb hp hc ho => exact .assembled hs.1 rfl hb hp hc ho rfl rfl
  | refused _ ha _ => exact .same rfl rfl (Exchange.void_of_failure ha).2.2.1
  | _ => exact .same rfl rfl rfl

lemma supplies_insert {r : Request} {key : Option EncryptionKey} {receipt : PartReceipt} {body : Bytes} {parts : Parts}
    (hp : ∀ e ∈ parts.entries, t.Supplies r.path e) (he : t'.Extends t) (hr : r ∈ t'.requests) (hin : r.chunk.InRange)
    (hx : ⟨r, .storage (.put r.path r.chunk r.payload key), .ok receipt⟩ ∈ t'.exchanges)
    (hb : r.chunk.body r.payload key = .ok body) :
    ∀ e ∈ (parts.insert r.chunk.current body).entries, t'.Supplies r.path e := by
  intro e hm
  rcases Parts.mem_insert hm with rfl | hm
  · exact ⟨r, rfl, rfl, hr, hin, key, receipt, hx, hb⟩
  · exact (hp e hm).mono he

namespace Traffic.Turns

variable {i : Nat} {f f' : Flight} {q : Call} {a : q.Answer}

lemma grows (h : t.Turns policy forced i f f' q a t') : t'.Extends t :=
  Progress.grows (.turn h : Progress policy forced (fun _ => True) t t')

lemma content (h : t.Turns policy forced i f f' q a t') (ht : t.Staged policy) :
    Turn.Content f.request (t.holding policy f.path) (t'.holding policy f.path) ⟨f.request, q, a⟩ := by
  obtain ⟨s, hs⟩ := h.stands ht
  obtain ⟨s', _, hturn⟩ := h.stage s hs
  exact hturn.content hs.fits

end Traffic.Turns

lemma filled_turn {i : Nat} {f f' : Flight} {q : Call} {a : q.Answer} (ht : t.Staged policy)
    (hf : t.Filled policy f.path) (h : t.Turns policy forced i f f' q a t') : t'.Filled policy f.path := by
  have he := h.grows
  have hx := h.exchange
  have hr : f.request ∈ t'.requests := he.1 (Traffic.mem_requests h.mem)
  cases h.content ht with
  | same hp ho _ => exact hf.mono he hp ho
  | stored hin heq hb _ hp ho =>
    rw [heq] at hx
    refine ⟨?_, fun o hm => ?_⟩
    · rw [hp]
      exact supplies_insert hf.parts he hr hin hx hb
    · rw [ho] at hm
      obtain ⟨parts, last, hj⟩ := hf.object o hm
      exact ⟨parts, last, hj.mono he⟩
  | assembled hin heq hb hparts hc heo hp ho =>
    rw [heq] at hx
    refine ⟨by simp [hp], fun o hm => ?_⟩
    obtain rfl := Option.some.inj (ho.symm.trans hm)
    refine ⟨_, f.request, heo, ?_, rfl, ⟨hr, hin⟩, hc, ?_⟩
    · rw [hparts]
      exact supplies_insert hf.parts he hr hin hx hb
    · rw [hparts]
      exact Parts.mem_numbers_insert.mpr (.inl rfl)

theorem Course.filled (h : Course policy forced adm b t) (hv : b.holding policy.keyRoot path = .vacant) :
    t.Filled policy path := by
  induction h with
  | refl =>
    have hh : (Traffic.quiet b).holding policy path = .vacant := hv
    constructor <;> simp [hh, Holding.vacant]
  | tail hc hp ih =>
    have hst := Course.staged hc
    have he := hp.grows
    cases hp with
    | launch r _ => exact ih.mono he rfl rfl
    | drop _ _ _ => exact ih.mono he rfl rfl
    | @turn i f f' q a t' hturn =>
      by_cases hpath : path = f.path
      · subst hpath
        exact filled_turn hst ih hturn
      · have hh := hturn.elsewhere path hpath
        exact ih.mono he (by rw [hh]) (by rw [hh])

end ResumableUpload.Upload
