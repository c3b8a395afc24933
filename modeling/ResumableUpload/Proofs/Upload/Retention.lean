import ResumableUpload.Proofs.Upload.Secrecy

/-! What stays: a part that was stored waits until it is in an object, an object does not go away, and no upload
speaks of its file as complete before there is one. -/

namespace ResumableUpload.Upload

variable {policy : UploadPolicy} {forced : Prop} {adm : Request → Prop} {b : Backends} {t t' : Traffic} {path : String}

def Stage.PastObject : Stage → Prop
  | inspect | mark _ => True
  | finished (.ok c) => c.allStored = true
  | _ => False

lemma Stage.not_pastObject_of_opening {s : Stage} (hs : s.Opening policy) : ¬ s.PastObject := by
  cases s with
  | inspect | mark _ => exact hs.elim
  | finished result =>
    cases result with
    | error e => exact id
    | ok c => exact hs.elim
  | _ => exact id

namespace Law

def retaining : Law where
  holding _ := True
  stage _ s h := s.PastObject → h.object.isSome = true
  exchange x h := x.storedUnder.isSome = true → x.request.chunk.current ∈ h.parts.numbers ∨ h.object.isSome = true

lemma retaining_respects {h h' : Holding} (ho : h.object.isSome = true → h'.object.isSome = true)
    (hn : ∀ n ∈ h.parts.numbers, n ∈ h'.parts.numbers ∨ h'.object.isSome = true) : retaining.Respects h h' := by
  refine ⟨fun r s hs hp => ho (hs hp), fun x hx hstored => ?_⟩
  rcases hx hstored with hm | hm
  · exact hn _ hm
  · exact .inr (ho hm)

lemma retaining_of_opening {r : Request} {s : Stage} {h : Holding} (hs : s.Opening policy) :
    retaining.stage r s h := fun hp => (Stage.not_pastObject_of_opening hs hp).elim

lemma retaining_kept : retaining.Kept policy forced adm b path := by
  refine ⟨trivial, fun r h _ _ _ => retaining_of_opening Stage.opening_start, ?_⟩
  intro t t' i f f' q a s s' hc ht hp _ _ hs hturn
  have same : ∀ {h h' : Holding}, h'.object = h.object → h'.parts = h.parts → retaining.Respects h h' := by
    intro h h' ho hparts
    exact retaining_respects (by rw [ho]; exact id) fun n hn => .inl (by rw [hparts]; exact hn)
  generalize t'.holding policy path = h' at hturn ⊢
  cases hturn with
  | found ho => exact ⟨trivial, fun _ => Option.isSome_iff_exists.mpr ⟨_, ho⟩, nofun, same rfl rfl⟩
  | missing _ => exact ⟨trivial, retaining_of_opening Stage.opening_entry, nofun, same rfl rfl⟩
  | registered _ => exact ⟨trivial, retaining_of_opening Stage.opening_keyed, nofun, same rfl rfl⟩
  | stored _ _ =>
    refine ⟨trivial, nofun, fun _ => .inl (Parts.mem_numbers_insert.mpr (.inl rfl)), ?_⟩
    exact retaining_respects id fun n hn => .inl (Parts.mem_numbers_insert.mpr (.inr hn))
  | assembled _ _ _ _ =>
    exact ⟨trivial, fun _ => rfl, fun _ => .inr rfl, retaining_respects (fun _ => rfl) fun _ _ => .inr rfl⟩
  | inspected ho => exact ⟨trivial, fun _ => Option.isSome_iff_exists.mpr ⟨_, ho⟩, nofun, same rfl rfl⟩
  | untagged _ _ ho => exact ⟨trivial, fun _ => Option.isSome_iff_exists.mpr ⟨_, ho⟩, nofun, same rfl rfl⟩
  | unseen _ | marked _ | unmarked _ => exact ⟨trivial, fun _ => hs trivial, nofun, same rfl rfl⟩
  | refused _ ha _ =>
    refine ⟨trivial, fun hp => hp.elim, fun hx => ?_, same rfl rfl⟩
    rw [Exchange.storedUnder_of_failure ha] at hx
    cases hx
  | _ => exact ⟨trivial, fun hp => hp.elim, nofun, same rfl rfl⟩

end Law

namespace Course

lemma object_of_outcome (h : Course policy forced adm b t) {f : Flight} (hf : f ∈ t.flights) {c : Completion}
    (hout : f.outcome = some (.ok c)) (hc : c.allStored = true) : (t.holding policy f.path).object.isSome = true := by
  have hl : Law.retaining.Holds policy f.path t := Law.retaining_kept.holds h
  rcases hl.stages f hf rfl with hn | ⟨s, hs, hstage⟩
  · simp [Flight.outcome, hn] at hout
  · rw [hs.outcome] at hout
    cases s <;> cases hout
    exact hstage hc

lemma retained (h : Course policy forced adm b t) {x : Exchange} (hx : x ∈ t.exchanges)
    (hs : x.storedUnder.isSome = true) : x.request.chunk.current ∈ (t.holding policy x.path).parts.numbers ∨
      (t.holding policy x.path).object.isSome = true := by
  have hl : Law.retaining.Holds policy x.path t := Law.retaining_kept.holds h
  exact hl.exchanges x hx rfl hs

end Course

end ResumableUpload.Upload
