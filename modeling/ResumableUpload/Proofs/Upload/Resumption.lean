import ResumableUpload.Proofs.Upload.Delivery
import ResumableUpload.Proofs.Upload.Retention
import ResumableUpload.Proofs.Upload.Sending

/-! An upload that stopped somewhere is resumed by sending all chunks but the first once more, wherever it stopped
after its first chunk was stored. -/

namespace ResumableUpload.Upload

variable {policy : UploadPolicy} {forced : Prop} {adm : Request → Prop} {b : Backends} {t : Traffic} {path : String}
  {key : Option EncryptionKey} {payloads : List Bytes}

lemma Traffic.Took.opens (hc : Course policy forced adm b t) (hv : b.holding policy.keyRoot path = .vacant)
    {r : Request} {body : Bytes} (h : t.Took r body) (hp : r.path = path) :
    ∃ key, (t.holding policy path).Opens policy key ∧ r.chunk.body r.payload key = .ok body := by
  obtain ⟨_, _, key, receipt, hx, hb⟩ := h
  refine ⟨key, ?_, hb⟩
  cases hroot : policy.keyRoot with
  | none =>
    have hl : Law.bare.Holds policy path t := (Law.bare_kept hroot).holds hc
    obtain rfl : key = none := hl.exchanges _ hx hp key rfl
    exact hroot
  | some root =>
    have hl := (Law.locking_kept hroot hv).holds hc
    obtain ⟨k, rfl, hkey⟩ := hl.exchanges _ hx hp key rfl
    exact ⟨by rw [hroot]; rfl, hkey⟩

lemma Traffic.Supplies.standsFor (hc : Course policy forced adm b t) (hv : b.holding policy.keyRoot path = .vacant)
    (hr : ∀ r ∈ t.requests, Carries path payloads r) (hopens : (t.holding policy path).Opens policy key)
    {e : Nat × Bytes} (h : t.Supplies path e) : StandsFor key payloads e := by
  obtain ⟨r, hp, hn, ht⟩ := h
  obtain ⟨key', hopens', hb⟩ := ht.opens hc hv hp
  obtain rfl := hopens.unique hopens'
  obtain ⟨hm, hin, _⟩ := ht
  obtain ⟨htotal, hpayload⟩ := hr r hm hp
  have hlt : r.chunk.current - 1 < payloads.length := by
    have := hin.1
    have := hin.2.1
    omega
  have hcurrent : r.chunk.current = r.chunk.current - 1 + 1 := (Nat.sub_add_cancel hin.1).symm
  refine ⟨r.chunk.current - 1, hlt, hn.symm.trans hcurrent, ?_⟩
  rw [← hn, ← hpayload _ hlt hcurrent]
  exact openPart_of_body hb

namespace Course

variable (hc : Course policy forced (Agreed path payloads.length) b t) (hv : b.holding policy.keyRoot path = .vacant)
include hc hv

lemma gathering (ho : (t.holding policy path).object = none) (hm : 1 ∈ (t.holding policy path).parts.numbers) :
    ∃ m, (t.holding policy path).Gathering m 1 := by
  obtain ⟨f, hf⟩ := Option.isSome_iff_exists.mp (hc.record_of_first hv hm)
  obtain ⟨m, state, old⟩ := f
  cases state with
  | created =>
    refine ⟨m, ho, ⟨old, hf⟩, fun i hpos hi => ?_⟩
    obtain rfl := Nat.le_antisymm hi hpos
    exact hm
  | uploaded =>
    obtain ⟨o, ho', _⟩ := ((Law.tagging_kept hv).holds hc).holding _ hf rfl
    cases ho.symm.trans ho'

lemma joined (hlong : 2 ≤ payloads.length) {o : StoredObject} (ho : (t.holding policy path).object = some o)
    (hstands : ∀ e, t.Supplies path e → StandsFor key payloads e) :
    (t.holding policy path).Joined key payloads 1 := by
  have hobject : (t.holding policy path).object.isSome = true := by rw [ho]; rfl
  obtain ⟨f, hf⟩ := Option.isSome_iff_exists.mp (hc.record_of_object hv hobject)
  obtain ⟨parts, last, hj⟩ := (hc.filled hv).object o ho
  refine ⟨hc.first_spent_of_object hv hobject, o, f, ho, ?_, hf, fun hu => ?_, fun he => ?_⟩
  · rw [hj.eq]
    refine Parts.madeOf_of_standsFor (fun e he => hstands e (hj.supplied e he)) ?_ _
    rw [← hc.admitted last hj.sent.1 hj.path]
    exact hj.enough
  · obtain ⟨o', ho', hetag⟩ := ((Law.tagging_kept hv).holds hc).holding f hf hu
    obtain rfl := Option.some.inj (ho.symm.trans ho')
    exact hetag
  · omega

omit hc in
lemma exists_supplies (hc : Course policy forced adm b t) {x : Exchange} (hx : x ∈ t.exchanges)
    (hp : x.path = path) (hs : x.storedUnder.isSome = true) : ∃ e, t.Supplies path e := by
  subst hp
  rcases hc.retained hx hs with hm | ho
  · obtain ⟨body, he⟩ := Parts.mem_numbers.mp hm
    exact ⟨_, (hc.filled hv).parts _ he⟩
  · obtain ⟨o, ho⟩ := Option.isSome_iff_exists.mp ho
    obtain ⟨parts, last, hj⟩ := (hc.filled hv).object o ho
    obtain ⟨body, he⟩ := Parts.mem_numbers.mp hj.member
    exact ⟨_, hj.supplied _ he⟩

lemma underway (hr : ∀ r ∈ t.requests, Carries path payloads r) (hlong : 2 ≤ payloads.length)
    (hfirst : ∃ x ∈ t.exchanges, x.path = path ∧ x.request.chunk.current = 1 ∧ x.storedUnder.isSome = true) :
    ∃ key, (t.holding policy path).Underway policy key payloads 1 ∧ payloads.length ≤ maxChunks ∧
      ∀ (c : Chunk) (payload : Bytes), ∃ body, c.body payload key = .ok body := by
  -- the body of the first chunk shows that the key can be used, and its part is kept until the object takes it in
  obtain ⟨x, hx, rfl, hone, hstored⟩ := hfirst
  obtain ⟨e, r, hp, _, ht⟩ := hc.exists_supplies hv hx rfl hstored
  obtain ⟨key, hopens, hb⟩ := ht.opens hc hv hp
  have hstands : ∀ e, t.Supplies x.path e → StandsFor key payloads e := fun e he => he.standsFor hc hv hr hopens
  have hcount : (t.holding policy x.path).parts.count < payloads.length :=
    ((Law.keeping_kept (Nat.zero_lt_of_lt hlong) hv).holds hc).holding
  refine ⟨key, ⟨hopens, fun e he => hstands e ((hc.filled hv).parts e he), hcount, ?_⟩, ?_, exists_body_of_body hb⟩
  · cases ho : (t.holding policy x.path).object with
    | none =>
      have hretained := hc.retained hx hstored
      rw [hone, ho] at hretained
      exact .inl (hc.gathering hv ho (hretained.resolve_right Bool.false_ne_true))
    | some o => exact .inr (hc.joined hv hlong ho hstands)
  · rw [← hc.admitted r ht.1 hp]
    exact ht.2.1.2.2

end Course

theorem Reachable.resumed (hv : b.holding policy.keyRoot path = .vacant) (h : Reachable policy b t)
    (hr : ∀ r ∈ t.requests, Carries path payloads r) (hlong : 2 ≤ payloads.length)
    (hsize : ∀ (i : Nat) (h : i < payloads.length), i + 1 < payloads.length → minChunkSize ≤ payloads[i].size)
    (hfirst : ∃ x ∈ t.exchanges, x.path = path ∧ x.request.chunk.current = 1 ∧ x.storedUnder.isSome = true)
    {rest : List Request} (hlength : 1 + rest.length = payloads.length)
    (hrest : ∀ (i : Nat) (hi : i < rest.length), rest[i].Brings path payloads (1 + i)) :
    (∀ x ∈ (serveAll policy rest t.backends).1, ∃ c, x = .ok c) ∧
      ∃ key, ((serveAll policy rest t.backends).2.holding policy.keyRoot path).Finished policy key payloads := by
  have hc := h.course fun r hm hp => (hr r hm hp).1
  obtain ⟨key, hunderway, hmax, hbody⟩ := hc.underway hv hr hlong hfirst
  obtain ⟨hok, hfinished⟩ := serveAll_finished ⟨hmax, hsize, hbody⟩ hunderway (Nat.le_refl 1) hlength hrest
  exact ⟨hok, key, hfinished⟩

theorem least_resumed : ∃ t, Reachable ⟨some "keys", .head⟩ (.withKeys []) t ∧
    t.flights = [⟨.least 1 2, some (.done (.ok .continuing))⟩] ∧
    (∀ x ∈ (serveAll ⟨some "keys", .head⟩ [.least 2 2] t.backends).1, ∃ c, x = .ok c) ∧
    ∃ key, ((serveAll ⟨some "keys", .head⟩ [.least 2 2] t.backends).2.holding (some "keys") "a").Finished
      ⟨some "keys", .head⟩ key [(Request.least 1 2).payload, (Request.least 2 2).payload] := by
  obtain ⟨body, hb⟩ := exists_body_of_size (k := Backends.spareKey) rfl (Request.least 1 2).chunk
    (Request.least 1 2).payload
  obtain ⟨t, hs, hf, hh⟩ := Request.steps_least ⟨some "keys", .head⟩ (some Backends.spareKey) (.quiet (.withKeys []))
    (by decide) (by decide) rfl ⟨rfl, rfl⟩ hb
  have hreach : Reachable ⟨some "keys", .head⟩ (.withKeys []) t := hs
  have hcarries : ∀ r ∈ t.requests, Carries "a" [(Request.least 1 2).payload, (Request.least 2 2).payload] r := by
    intro r hr _
    rw [Traffic.requests, hf] at hr
    obtain rfl : r = .least 1 2 := by simpa [Traffic.quiet] using hr
    refine ⟨rfl, fun i hi hcurrent => ?_⟩
    obtain rfl : i = 0 := (Nat.succ.inj hcurrent).symm
    rfl
  have hfirst : ∃ x ∈ t.exchanges, x.path = "a" ∧ x.request.chunk.current = 1 ∧ x.storedUnder.isSome = true := by
    have hfilled : t.Filled ⟨some "keys", .head⟩ "a" := (hreach.course (fun r hr hp => (hcarries r hr hp).1)).filled rfl
    have hmem : (1, body) ∈ (t.holding ⟨some "keys", .head⟩ "a").parts.entries := by
      rw [hh]
      exact List.mem_singleton_self _
    obtain ⟨r, hp, hn, _, _, key, receipt, hx, _⟩ := hfilled.parts _ hmem
    exact ⟨_, hx, hp, hn, rfl⟩
  refine ⟨t, hreach, hf, hreach.resumed rfl hcarries (Nat.le_refl 2) ?_ hfirst rfl ?_⟩
  · intro i hi hlast
    obtain rfl : i = 0 := by simpa using hlast
    exact Nat.le_of_eq Array.size_replicate.symm
  · intro i hi
    obtain rfl : i = 0 := Nat.lt_one_iff.mp hi
    exact ⟨rfl, rfl, rfl, rfl⟩

end ResumableUpload.Upload
