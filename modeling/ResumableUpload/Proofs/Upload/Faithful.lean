import ResumableUpload.Proofs.Text.Trim
import ResumableUpload.Proofs.Upload.Assembly
import ResumableUpload.Proofs.Upload.Finality

/-! Of which object the recorded ETag of a file is, when uploads for its path differ on the number of chunks. It was
reported for an object of the path in any case. It is the ETag of the one that is there as long as no object was put
together from a part that lies beyond the last chunk of its upload. -/

namespace ResumableUpload.Upload

variable {policy : UploadPolicy} {forced : Prop} {adm : Request → Prop} {b : Backends} {t t' : Traffic} {path : String}

def Exchange.tag? : Exchange → Option String
  | ⟨_, .storage (.put ..), .ok receipt⟩ => if receipt.complete then some receipt.etag else none
  | _ => none

lemma Exchange.completes_of_tag {x : Exchange} {tag : String} (h : x.tag? = some tag) : x.completes = true := by
  unfold tag? at h
  split at h
  · split at h
    · next hc => exact hc
    · cases h
  · cases h

namespace Traffic

def Reports (t : Traffic) (path tag : String) : Prop := ∃ x ∈ t.exchanges, x.path = path ∧ x.tag? = some tag

structure Sourced (policy : UploadPolicy) (t : Traffic) (path : String) : Prop where
  object : ∀ o, (t.holding policy path).object = some o → t.Reports path o.etag
  record : ∀ f, (t.holding policy path).record = some f → f.state = .uploaded →
    ∃ tag, t.Reports path tag ∧ f.etag = some (ETag.unquote tag)
  mark : ∀ f ∈ t.flights, f.path = path → ∀ {authorization p etag},
    f.question = some (.registry (.mark authorization p etag)) →
      ∃ tag, t.Reports path tag ∧ etag = ETag.unquote tag

lemma Reports.mono {tag : String} (h : t.Reports path tag) (he : t'.Extends t) : t'.Reports path tag := by
  obtain ⟨x, hx, hp, htag⟩ := h
  exact ⟨x, he.2 hx, hp, htag⟩

lemma Sourced.mono (h : t.Sourced policy path) (he : t'.Extends t)
    (hh : t'.holding policy path = t.holding policy path)
    (hf : ∀ f ∈ t'.flights, f ∉ t.flights → f.path = path → ∀ {authorization p etag},
      f.question ≠ some (.registry (.mark authorization p etag))) : t'.Sourced policy path := by
  refine ⟨fun o ho => ?_, fun f hr hu => ?_, fun f hm hp _ _ etag hq => ?_⟩
  · rw [hh] at ho
    exact (h.object o ho).mono he
  · rw [hh] at hr
    obtain ⟨tag, htag, hetag⟩ := h.record f hr hu
    exact ⟨tag, htag.mono he, hetag⟩
  · by_cases hold : f ∈ t.flights
    · obtain ⟨tag, htag, hetag⟩ := h.mark f hold hp hq
      exact ⟨tag, htag.mono he, hetag⟩
    · exact absurd hq (hf f hm hold hp)

end Traffic

lemma Stage.start_question_ne {r : Request} {authorization : Option String} {p etag : String} :
    (start policy r).question r ≠ some (.registry (.mark authorization p etag)) :=
  start_of (P := fun s => s.question r ≠ some (.registry (.mark authorization p etag))) (fun _ => nofun) (fun _ => nofun)
    (fun _ => nofun) (fun _ _ => nofun) fun _ _ _ => nofun

namespace Turn

variable {r : Request} {s s' : Stage} {h h' : Holding} {q : Call} {a : q.Answer}

lemma object_source (ht : Turn policy r forced s h q a s' h') :
    h'.object = h.object ∨ ∃ o, h'.object = some o ∧ Exchange.tag? ⟨r, q, a⟩ = some o.etag := by
  cases ht with
  | assembled _ _ _ _ => exact .inr ⟨_, rfl, rfl⟩
  | _ => exact .inl rfl

lemma record_source (ht : Turn policy r forced s h q a s' h') {f : FileRecord} (hf : h'.record = some f)
    (hu : f.state = .uploaded) : h.record = some f ∨ ∃ authorization p etag,
      q = .registry (.mark authorization p etag) ∧ f.etag = some etag := by
  cases ht with
  | registered _ =>
    cases hf
    cases hu
  | marked _ =>
    cases hf
    exact .inr ⟨_, _, _, rfl, rfl⟩
  | _ => exact .inl hf

lemma mark_source (ht : Turn policy r forced s h q a s' h') {authorization : Option String} {p etag : String}
    (hq : s'.question r = some (.registry (.mark authorization p etag))) :
    ∃ o, h'.object = some o ∧ etag = ETag.unquote o.etag := by
  have hentry : (Stage.entry policy r).question r ≠ some (.registry (.mark authorization p etag)) :=
    Stage.entry_of (P := fun s => s.question r ≠ some (.registry (.mark authorization p etag))) (fun _ => nofun)
      (fun _ _ => nofun) fun _ _ _ => nofun
  have hkeyed : (Stage.keyed policy r).question r ≠ some (.registry (.mark authorization p etag)) :=
    Stage.keyed_of (P := fun s => s.question r ≠ some (.registry (.mark authorization p etag))) (fun _ => nofun)
      (fun _ _ _ => nofun) fun _ _ _ => nofun
  cases ht with
  | found ho =>
    cases hq
    exact ⟨_, ho, rfl⟩
  | missing _ => exact absurd hq hentry
  | registered _ => exact absurd hq hkeyed
  | @assembled _ _ _ _ o =>
    refine ⟨o, rfl, ?_⟩
    rw [Stage.assembled] at hq
    split at hq <;> cases hq
    rfl
  | inspected ho =>
    cases hq
    exact ⟨_, ho, rfl⟩
  | _ => cases hq

end Turn

lemma Traffic.Sourced.turn {i : Nat} {f f' : Flight} {q : Call} {a : q.Answer} (h : t.Sourced policy f.path)
    (hs : t.Staged policy) (ht : t.Turns policy forced i f f' q a t') : t'.Sourced policy f.path := by
  obtain ⟨s, hstands⟩ := ht.stands hs
  obtain ⟨s', hstands', hturn⟩ := ht.stage s hstands
  have he := ht.grows
  have hobject : ∀ o, (t'.holding policy f.path).object = some o → t'.Reports f.path o.etag := by
    intro o ho
    rcases hturn.object_source with hsame | ⟨o', ho', htag⟩
    · exact (h.object o (hsame.symm.trans ho)).mono he
    · obtain rfl := Option.some.inj (ho'.symm.trans ho)
      exact ⟨_, ht.exchange, rfl, htag⟩
  refine ⟨hobject, fun g hg hu => ?_, fun g hg hp authorization p etag hq => ?_⟩
  · rcases hturn.record_source hg hu with hold | ⟨_, _, etag, hq, hetag⟩
    · obtain ⟨tag, htag, hetag⟩ := h.record g hold hu
      exact ⟨tag, htag.mono he, hetag⟩
    · obtain ⟨tag, htag, rfl⟩ := h.mark f ht.mem rfl (hq ▸ ht.question)
      exact ⟨tag, htag.mono he, hetag⟩
  · rw [ht.flights] at hg
    rcases List.mem_or_eq_of_mem_set hg with hg | rfl
    · obtain ⟨tag, htag, hetag⟩ := h.mark g hg hp hq
      exact ⟨tag, htag.mono he, hetag⟩
    · rw [hstands'.question, ht.request] at hq
      obtain ⟨o, ho, hetag⟩ := hturn.mark_source hq
      exact ⟨o.etag, hobject o ho, hetag⟩

theorem Course.sourced (h : Course policy forced adm b t) (hv : b.holding policy.keyRoot path = .vacant) :
    t.Sourced policy path := by
  induction h with
  | refl =>
    have hh : (Traffic.quiet b).holding policy path = .vacant := hv
    refine ⟨fun o ho => ?_, fun f hf => ?_, fun f hf => absurd hf List.not_mem_nil⟩
    · rw [hh] at ho
      cases ho
    · rw [hh] at hf
      cases hf
  | @tail t t' hc hp ih =>
    have he := hp.grows
    have hst := Course.staged hc
    cases hp with
    | launch r _ =>
      refine ih.mono he rfl fun f hf hnew _ _ _ _ hq => ?_
      obtain rfl := List.mem_singleton.mp ((List.mem_append.mp hf).resolve_left hnew)
      rw [(Flight.stands_launch policy r).question] at hq
      exact Stage.start_question_ne hq
    | drop _ _ _ =>
      refine ih.mono he rfl fun f hf hnew _ _ _ _ hq => ?_
      obtain rfl := (List.mem_or_eq_of_mem_set hf).resolve_left hnew
      cases hq
    | @turn i f f' q a t' hturn =>
      by_cases hpath : path = f.path
      · subst hpath
        exact ih.turn hst hturn
      · refine ih.mono he (hturn.elsewhere path hpath) fun g hg hnew hp => ?_
        rw [hturn.flights] at hg
        obtain rfl := (List.mem_or_eq_of_mem_set hg).resolve_left hnew
        exact absurd (hp.symm.trans (congrArg Request.path hturn.request)) hpath

lemma Traffic.Reports.eq {tag tag' : String} (h : t.Reports path tag) (h' : t.Reports path tag')
    (hle : t.count path Exchange.completes ≤ 1) : tag = tag' := by
  obtain ⟨x, hx, hp, htag⟩ := h
  obtain ⟨x', hx', hp', htag'⟩ := h'
  have hmem : ∀ {y : Exchange} {tag}, y ∈ t.exchanges → y.path = path → y.tag? = some tag →
      y ∈ t.exchanges.filter fun y => y.path = path && y.completes := by
    intro y tag hy hp htag
    simp [hy, hp, Exchange.completes_of_tag htag]
  have hle := List.countP_eq_length_filter.symm.trans_le hle
  -- each tag belongs to an exchange that puts an object together, and there is at most one
  have hsame : x = x' := by
    have := hmem hx hp htag
    have := hmem hx' hp' htag'
    generalize t.exchanges.filter _ = l at *
    match l with
    | [] => contradiction
    | [z] => simp_all
    | _ :: _ :: _ => simp at hle
  subst hsame
  exact Option.some.inj (htag.symm.trans htag')

/-- A step of a smooth run puts the object of the path together, and from a part that lies beyond the last chunk. -/
structure Traffic.Overfills (policy : UploadPolicy) (b : Backends) (path : String) (t t' : Traffic) : Prop where
  smooth : Smooth policy b t
  move : Move policy t t'
  beyond : ∃ x parts, t'.exchanges = x :: t.exchanges ∧ x.path = path ∧ x.completes = true ∧
    t.Gathers policy t' x parts ∧ ∃ n ∈ parts.numbers, x.request.chunk.total < n

def Traffic.Overfilled (policy : UploadPolicy) (b : Backends) (path : String) (t : Traffic) : Prop :=
  ∃ t₁ t₂, Overfills policy b path t₁ t₂ ∧ Relation.ReflTransGen (Move policy) t₂ t

lemma Traffic.Overfilled.mono (h : t.Overfilled policy b path) (hm : Relation.ReflTransGen (Move policy) t t') :
    t'.Overfilled policy b path := by
  obtain ⟨t₁, t₂, hover, hs⟩ := h
  exact ⟨t₁, t₂, hover, hs.trans hm⟩

lemma Traffic.Overfills.overfilled (h : t.Overfills policy b path t') : t'.Overfilled policy b path :=
  ⟨t, t', h, .refl⟩

lemma first_of_not_overfills {i : Nat} {f f' : Flight} {q : Call} {a : q.Answer} {body : Bytes}
    (hv : b.holding policy.keyRoot path = .vacant) (h : Smooth policy b t) (hm : Move policy t t')
    (ht : t.Turns policy forced i f f' q a t') (hp : f.path = path) (hn : ¬ t.Overfills policy b path t')
    (hx : Exchange.completes ⟨f.request, q, a⟩ = true) (hin : f.request.chunk.InRange)
    (hcount : f.request.chunk.total ≤ ((t.holding policy path).parts.insert f.request.chunk.current body).count) :
    1 ∈ ((t.holding policy path).parts.insert f.request.chunk.current body).numbers := by
  have hcourse := h.course (fun _ _ => trivial : ∀ r ∈ t.requests, (fun _ => True) r)
  subst hp
  have hle : ∀ n ∈ (t.holding policy f.path).parts.numbers, n ≤ f.request.chunk.total := by
    intro n hmem
    cases ht.content hcourse.staged with
    | same _ _ hx' => cases hx'.symm.trans hx
    | stored _ heq _ _ _ _ =>
      rw [heq] at hx
      cases hx
    | @assembled key body parts o _ heq hb hparts _ ho _ hobject =>
      have hgathers : t.Gathers policy t' ⟨f.request, q, a⟩ parts :=
        ⟨⟨key, body, congrArg Exchange.call heq, hb, hparts⟩, hobject.trans (congrArg some ho)⟩
      by_contra hlt
      refine hn ⟨h, hm, _, parts, ht.exchanges, rfl, hx, hgathers, n, ?_, Nat.lt_of_not_le hlt⟩
      rw [hparts]
      exact Parts.mem_numbers_insert.mpr (.inr hmem)
  -- as many parts as the file has chunks, and none beyond the last: the first is among them
  refine Ledger.one_mem_of_bounds hin hcount fun n hmem => ?_
  rcases Parts.mem_numbers_insert.mp hmem with rfl | hmem
  · exact ⟨hin.1, hin.2.1⟩
  · obtain ⟨body, hbody⟩ := Parts.mem_numbers.mp hmem
    obtain ⟨r, -, hr, -, hrange, -⟩ := (hcourse.filled hv).parts _ hbody
    refine ⟨?_, hle n hmem⟩
    rw [← show r.chunk.current = n from hr]
    exact hrange.1

lemma Smooth.opening_le (hv : b.holding policy.keyRoot path = .vacant) (h : Smooth policy b t)
    (hn : ¬ t.Overfilled policy b path) : Ledger.opening.total policy t path ≤ 1 := by
  induction h with
  | refl =>
    simp [Ledger.total, Ledger.opening, Ledger.exclusive, Traffic.quiet, Traffic.exchanges, Traffic.count, Traffic.holding, hv,
      Holding.vacant]
  | @tail t t' h hm ih =>
    have hsmooth : Smooth policy b t := h
    have hcourse := hsmooth.course (fun _ _ => trivial : ∀ r ∈ t.requests, (fun _ => True) r)
    have hp : Progress policy False (fun _ => True) t t' := hm.progress hcourse.staged fun _ _ => trivial
    have hstep : _ ≤ Ledger.opening.total policy t path + _ :=
      Ledger.total_step (fun _ => rfl) (fun _ _ _ => Ledger.not_bringsFirst_start) hcourse.staged hp
        fun ht hpath hs hturn => Ledger.opening_turn hs hturn fun hx hin body hcount =>
          first_of_not_overfills hv hsmooth hm ht hpath (fun ho => hn ho.overfilled) hx hin hcount
    have hnever : ∀ u : Traffic, u.count path Ledger.opening.issued = 0 :=
      fun u => by simp [Ledger.opening, Ledger.exclusive, Traffic.count]
    rw [hnever, hnever] at hstep
    exact hstep.trans (ih fun ho => hn (ho.mono (.single hm)))

lemma Smooth.completes_le (hv : b.holding policy.keyRoot path = .vacant) (h : Smooth policy b t)
    (hn : ¬ t.Overfilled policy b path) : t.count path Exchange.completes ≤ 1 := by
  have hle := h.opening_le hv hn
  simp only [Ledger.total, Ledger.opening, Ledger.exclusive] at hle
  omega

lemma Smooth.object_kept (hv : b.holding policy.keyRoot path = .vacant) (h : Smooth policy b t)
    (hs : Relation.ReflTransGen (Move policy) t t') (hn : ¬ t'.Overfilled policy b path) {o : StoredObject}
    (ho : (t.holding policy path).object = some o) : (t'.holding policy path).object = some o := by
  induction hs with
  | refl => exact ho
  | @tail u t' hs hm ih =>
    have hu : Smooth policy b u := h.trans hs
    have hcourse := hu.course (fun _ _ => trivial : ∀ r ∈ u.requests, (fun _ => True) r)
    have hu' : Smooth policy b t' := hu.tail hm
    have ho := ih fun hover => hn (hover.mono (.single hm))
    have hp : Progress policy False (fun _ => True) u t' := hm.progress hcourse.staged fun _ _ => trivial
    cases hp with
    | launch r _ => exact ho
    | drop hf _ _ => exact hf.elim
    | @turn i f _ _ _ _ ht =>
      by_cases hpath : path = f.path
      · exact ht.object_kept_of_le hpath.symm hv hcourse (hu'.completes_le hv hn) ho
      · rw [ht.elsewhere path hpath, ho]

namespace Law

def lasting : Law where
  holding _ := True
  stage _ _ _ := True
  exchange x h := x.completes = true → h.object.isSome = true

lemma lasting_kept : lasting.Kept policy forced adm b path := by
  refine ⟨trivial, fun _ _ _ _ _ => trivial, ?_⟩
  intro t t' i f f' q a s s' _ ht hp hs _ _ hturn
  refine ⟨trivial, trivial, fun hx => ?_, fun _ _ _ => trivial, fun x hx hc => hturn.object_isSome (hx hc)⟩
  cases hturn.content hs with
  | same _ _ hx' => cases hx'.symm.trans hx
  | stored _ heq _ _ _ _ =>
    rw [heq] at hx
    cases hx
  | assembled _ _ _ _ _ _ _ ho => rw [ho]; rfl

end Law

/-- A file that is recorded as uploaded has an object, and its ETag was reported for an object of its path. It is
that of the object now and later on as long as none is put together from a part beyond the last chunk. -/
theorem Smooth.described (hv : b.holding policy.keyRoot path = .vacant) (h : Smooth policy b t) {f : FileRecord}
    (hr : (t.holding policy path).record = some f) (hu : f.state = .uploaded) :
    ∃ o, (t.holding policy path).object = some o ∧
      (∃ tag, t.Reports path tag ∧ f.etag = some (ETag.unquote tag)) ∧
      ∀ t', Relation.ReflTransGen (Move policy) t t' → ¬ t'.Overfilled policy b path →
        f.etag = some (ETag.unquote o.etag) ∧ (t'.holding policy path).object = some o := by
  have hcourse := h.course (fun _ _ => trivial : ∀ r ∈ t.requests, (fun _ => True) r)
  have hsourced := hcourse.sourced hv
  obtain ⟨tag, htag, hetag⟩ := hsourced.record f hr hu
  obtain ⟨x, hx, hp, hxtag⟩ := htag
  have hsome := (Law.lasting_kept.holds hcourse).exchanges x hx hp (Exchange.completes_of_tag hxtag)
  obtain ⟨o, ho⟩ := Option.isSome_iff_exists.mp hsome
  refine ⟨o, ho, ⟨tag, ⟨x, hx, hp, hxtag⟩, hetag⟩, fun t' hs hn => ⟨?_, h.object_kept hv hs hn ho⟩⟩
  have hle := h.completes_le hv fun hover => hn (hover.mono hs)
  rw [hetag, Traffic.Reports.eq ⟨x, hx, hp, hxtag⟩ (hsourced.object o ho) hle]

lemma Smooth.not_overfilled (hv : b.holding policy.keyRoot path = .vacant)
    (hle : ∀ r ∈ t.requests, ∀ last ∈ t.requests, r.path = path → last.path = path →
      r.chunk.current ≤ last.chunk.total) : ¬ t.Overfilled policy b path := by
  -- every part was brought by an upload, whose number `hle` bounds by the total of the one that gathers them
  rintro ⟨t₁, t₂, ⟨h, hm, x, parts, hx, hp, -, hg, n, hn, hlt⟩, hs⟩
  have hcourse := h.course (fun _ _ => trivial : ∀ r ∈ t₁.requests, (fun _ => True) r)
  have hsteps : Relation.ReflTransGen (Step policy) t₁ t :=
    .head (.inl hm) (Relation.ReflTransGen.mono (fun _ _ hm => Or.inl hm) _ _ hs)
  have hsub : t₁.requests ⊆ t.requests := h.reachable.requests_subset hsteps
  obtain ⟨i, f, f', q, a, rfl, ht⟩ := Step.turns h.reachable (.inl hm) hx
  have hlast : f.request ∈ t.requests := hsub (Traffic.mem_requests ht.mem)
  obtain ⟨key, body, -, -, rfl⟩ := hg.put
  subst hp
  have hbound : n ≤ f.request.chunk.total := by
    rcases Parts.mem_numbers_insert.mp hn with rfl | hn
    · exact hle _ hlast _ hlast rfl rfl
    · obtain ⟨body, hbody⟩ := Parts.mem_numbers.mp hn
      obtain ⟨r, hr, hnum, hmem, -⟩ := (hcourse.filled hv).parts _ hbody
      rw [← show r.chunk.current = n from hnum]
      exact hle r (hsub hmem) _ hlast hr rfl
  exact absurd hlt (Nat.not_lt.mpr hbound)

lemma getLast?_unquote_objectTag {content : Bytes} {n : Nat} {c : Char} (h : s!"-{n}\"".toList = ['-', c, '"'])
    (hc : c ≠ '"') : (ETag.unquote (ObjectStore.objectTag content n)).toList.getLast? = some c := by
  have hlist : (ObjectStore.objectTag content n).toList =
      ("\"" ++ ObjectStore.fingerprint content).toList ++ ['-'] ++ [c, '"'] := by
    rw [ObjectStore.objectTag, String.toList_append, h, List.append_assoc]
    rfl
  exact ETag.getLast?_unquote hlist hc

lemma unquote_objectTag_ne {content content' : Bytes} :
    ETag.unquote (ObjectStore.objectTag content 1) ≠ ETag.unquote (ObjectStore.objectTag content' 3) := by
  intro h
  have hone : (ETag.unquote (ObjectStore.objectTag content 1)).toList.getLast? = some '1' :=
    getLast?_unquote_objectTag rfl (by decide)
  rw [h, getLast?_unquote_objectTag (c := '3') rfl (by decide)] at hone
  cases hone

theorem least_described : ∃ t t' f o, Smooth ⟨none, .part⟩ (.withKeys []) t ∧
    (t.holding ⟨none, .part⟩ "a").record = some f ∧ f.state = .uploaded ∧
    Relation.ReflTransGen (Move ⟨none, .part⟩) t t' ∧ t'.requests = [.least 1 2, .least 2 2, .least 2 3] ∧
    (t.holding ⟨none, .part⟩ "a").object = some o ∧ f.etag = some (ETag.unquote o.etag) ∧
    (t'.holding ⟨none, .part⟩ "a").object = some o := by
  -- a file of two chunks is complete, and an upload that takes it for one of three brings its second chunk
  have bare : ∀ {h : Holding}, h.Opens ⟨none, .part⟩ none := rfl
  have unkeyed : (Backends.withKeys []).Provides ⟨none, .part⟩ none := rfl
  have hsize := Request.least_sizeAdmissible
  obtain ⟨t₁, hs₁, hh₁, hf₁⟩ := (Request.leaves_opened ⟨none, .part⟩ (b := (Traffic.quiet (.withKeys [])).backends)
    (r := .least 1 2) (by decide) rfl rfl unkeyed (hsize 1 2) rfl (by decide)).moves_here
  obtain ⟨t₂, hs₂, hh₂, hf₂⟩ := (Request.leaves_completed ⟨none, .part⟩ (b := t₁.backends)
    (r := .least 2 2) hh₁ (by decide) rfl (.inr rfl) bare (hsize 2 2) rfl (by decide) rfl rfl).moves_here
  obtain ⟨t₃, hs₃, hh₃, hf₃⟩ := (Request.leaves_stored ⟨none, .part⟩ (b := t₂.backends)
    (r := .least 2 3) hh₂ (by decide) rfl (.inl rfl) bare (hsize 2 3) rfl (by decide)).moves_here
  have hsmooth : Smooth ⟨none, .part⟩ (.withKeys []) t₂ := hs₁.trans hs₂
  have hrequests : t₃.requests = [.least 1 2, .least 2 2, .least 2 3] := by
    rw [Traffic.requests, hf₃, hf₂, hf₁]
    rfl
  have hn : ¬ t₃.Overfilled ⟨none, .part⟩ (.withKeys []) "a" := by
    refine Smooth.not_overfilled rfl fun r hr last hlast _ _ => ?_
    simp only [hrequests, List.mem_cons, List.not_mem_nil, or_false] at hr hlast
    rcases hr with rfl | rfl | rfl <;> rcases hlast with rfl | rfl | rfl <;> decide
  have hrecord : (t₂.holding ⟨none, .part⟩ "a").record = _ := congrArg Holding.record hh₂
  obtain ⟨o, ho, -, hlater⟩ := hsmooth.described rfl hrecord rfl
  obtain ⟨htag, hkept⟩ := hlater t₃ hs₃ hn
  exact ⟨t₂, t₃, _, o, hsmooth, hrecord, rfl, hs₃, hrequests, ho, htag, hkept⟩

/-- A file of one chunk is complete. The chunks three of four, four of five and two of three follow. -/
theorem replaced_by_second_chunk : ¬ ∀ policy b t path f, b.holding policy.keyRoot path = .vacant →
    Smooth policy b t → (t.holding policy path).record = some f → f.state = .uploaded →
    ∃ o, (t.holding policy path).object = some o ∧ f.etag = some (ETag.unquote o.etag) := by
  intro hclaim
  have bare : ∀ {h : Holding}, h.Opens ⟨none, .part⟩ none := rfl
  have unkeyed : (Backends.withKeys []).Provides ⟨none, .part⟩ none := rfl
  have hsize := Request.least_sizeAdmissible
  obtain ⟨t₁, hs₁, hh₁, -⟩ := (Request.leaves_whole ⟨none, .part⟩ (b := (Traffic.quiet (.withKeys [])).backends)
    (r := .plain "a" 1 1 ⟨#[7]⟩) (by decide) rfl rfl unkeyed (.inl rfl) rfl (by decide) rfl).moves_here
  obtain ⟨t₂, hs₂, hh₂, -⟩ := (Request.leaves_stored ⟨none, .part⟩ (b := t₁.backends)
    (r := .least 3 4) hh₁ (by decide) rfl (.inl rfl) bare (hsize 3 4) rfl (by decide)).moves_here
  obtain ⟨t₃, hs₃, hh₃, -⟩ := (Request.leaves_stored ⟨none, .part⟩ (b := t₂.backends)
    (r := .least 4 5) hh₂ (by decide) rfl (.inl rfl) bare (hsize 4 5) rfl (by decide)).moves_here
  obtain ⟨t₄, hs₄, hh₄, -⟩ := (Request.leaves_replaced ⟨none, .part⟩ (b := t₃.backends)
    (r := .least 2 3) hh₃ (by decide) rfl (.inl rfl) bare (hsize 2 3) rfl (by decide) rfl rfl rfl).moves_here
  have hsmooth : Smooth ⟨none, .part⟩ (.withKeys []) t₄ := ((hs₁.trans hs₂).trans hs₃).trans hs₄
  obtain ⟨o, ho, htag⟩ := hclaim _ _ t₄ "a" _ rfl hsmooth (congrArg Holding.record hh₄) rfl
  obtain rfl := Option.some.inj ((congrArg Holding.object hh₄).symm.trans ho)
  exact unquote_objectTag_ne (Option.some.inj htag)

end ResumableUpload.Upload
