import ResumableUpload.Proofs.Cipher.Feedback
import ResumableUpload.Proofs.Upload.Completion
import ResumableUpload.Proofs.Upload.Orderly
import ResumableUpload.Proofs.Upload.Secrecy

/-! What is delivered when nothing fails: once every chunk of a file was taken at least once, in whatever order
and however often, one upload has completed the file, and the object is made of the payloads. -/

namespace ResumableUpload.Upload

variable {policy : UploadPolicy} {forced : Prop} {adm : Request → Prop} {b : Backends} {t t' : Traffic}
  {path root : String} {total : Nat} {payloads : List Bytes}

def Law.keeping (total : Nat) : Law where
  holding h := h.parts.count < total
  stage r s h :=
    match s with
    | .inspect | .mark _ => h.object.isSome = true
    | .finished (.ok _) => r.chunk.current ∈ h.parts.numbers ∨ h.object.isSome = true
    | _ => True
  exchange _ _ := True

lemma Law.keeping_respects {h h' : Holding} (ho : h.object.isSome = true → h'.object.isSome = true)
    (hn : ∀ n ∈ h.parts.numbers, n ∈ h'.parts.numbers ∨ h'.object.isSome = true) :
    (Law.keeping total).Respects h h' := by
  refine ⟨fun r s hs => ?_, fun _ _ => trivial⟩
  cases s with
  | inspect | mark _ => exact ho hs
  | finished result =>
    cases result with
    | error e => trivial
    | ok c =>
      rcases hs with hs | hs
      · exact hn _ hs
      · exact .inr (ho hs)
  | _ => trivial

lemma Law.keeping_of_opening {r : Request} {s : Stage} {h : Holding} (hs : s.Opening policy) :
    (Law.keeping total).stage r s h := by
  cases s with
  | inspect | mark _ => exact hs.elim
  | finished result =>
    cases result with
    | error e => trivial
    | ok c => exact hs.elim
  | _ => trivial

lemma Law.keeping_kept (hpos : 0 < total) (hv : b.holding policy.keyRoot path = .vacant) :
    (Law.keeping total).Kept policy forced (Agreed path total) b path := by
  refine ⟨?_, fun r h _ _ _ => Law.keeping_of_opening Stage.opening_start, ?_⟩
  · rw [hv]
    exact hpos
  intro t t' i f f' q a s s' hc ht hp _ hh hs hturn
  have htotal : f.request.chunk.total = total := hc.admitted _ (Traffic.mem_requests ht.mem) hp
  have same : ∀ {h h' : Holding}, h'.object = h.object → h'.parts = h.parts → (Law.keeping total).Respects h h' := by
    intro h h' ho hparts
    exact Law.keeping_respects (by rw [ho]; exact id) fun n hn => .inl (by rw [hparts]; exact hn)
  generalize t'.holding policy path = h' at hturn ⊢
  cases hturn with
  | found ho => exact ⟨hh, Option.isSome_iff_exists.mpr ⟨_, ho⟩, trivial, same rfl rfl⟩
  | missing _ => exact ⟨hh, Law.keeping_of_opening Stage.opening_entry, trivial, same rfl rfl⟩
  | registered _ => exact ⟨hh, Law.keeping_of_opening Stage.opening_keyed, trivial, same rfl rfl⟩
  | stored _ hcount =>
    refine ⟨htotal ▸ hcount, .inl (Parts.mem_numbers_insert.mpr (.inl rfl)), trivial, ?_⟩
    exact Law.keeping_respects id fun n hn => .inl (Parts.mem_numbers_insert.mpr (.inr hn))
  | assembled _ _ _ _ =>
    refine ⟨hpos, ?_, trivial, Law.keeping_respects (fun _ => rfl) fun _ _ => .inr rfl⟩
    rw [Stage.assembled]
    cases policy.digest <;> rfl
  | inspected ho => exact ⟨hh, Option.isSome_iff_exists.mpr ⟨_, ho⟩, trivial, same rfl rfl⟩
  | unseen _ => exact ⟨hh, .inr hs, trivial, same rfl rfl⟩
  | untagged _ _ ho => exact ⟨hh, .inr (Option.isSome_iff_exists.mpr ⟨_, ho⟩), trivial, same rfl rfl⟩
  | marked _ => exact ⟨hh, .inr hs, trivial, same rfl rfl⟩
  | unmarked _ => exact ⟨hh, .inr hs, trivial, same rfl rfl⟩
  | _ => exact ⟨hh, trivial, trivial, same rfl rfl⟩

def Law.bare : Law where
  holding _ := True
  stage _ _ _ := True
  exchange x _ := ∀ key, x.storedUnder = some key → key = none

lemma Law.bare_kept (hk : policy.keyRoot = none) : Law.bare.Kept policy forced adm b path := by
  refine ⟨trivial, fun _ _ _ _ _ => trivial, ?_⟩
  intro t t' i f f' q a s s' hc ht hp hfits _ _ hturn
  refine ⟨trivial, trivial, fun key he => ?_, fun _ _ => id, fun _ => id⟩
  generalize t'.holding policy path = h' at hturn
  cases hturn with
  | stored _ _ | assembled _ _ _ _ =>
    cases he
    exact Option.isSome_eq_false_iff.mp (hfits.2.trans (by rw [hk]; rfl)) |> Option.isNone_iff_eq_none.mp
  | refused _ ha _ => cases (Exchange.storedUnder_of_failure ha).symm.trans he
  | _ => cases he

def Carries (path : String) (payloads : List Bytes) (r : Request) : Prop :=
  r.path = path → r.chunk.total = payloads.length ∧
    ∀ (i : Nat) (h : i < payloads.length), r.chunk.current = i + 1 → r.payload = payloads[i]

structure Traffic.Delivered (policy : UploadPolicy) (t : Traffic) (path : String) (payloads : List Bytes) : Prop where
  completed : (t.flights.countP fun f => f.path = path && f.completed) = 1
  uploaded : ∃ f, (t.holding policy path).record = some f ∧ f.state = .uploaded
  content : ∃ o bodies, (t.holding policy path).object = some o ∧ o.content = Bytes.concat bodies ∧
    bodies.length = payloads.length ∧ (policy.keyRoot = none → bodies = payloads) ∧
    ∀ root, policy.keyRoot = some root → ∃ k, t.readKey root path = .ok k ∧
      ∀ (i : Nat) (hb : i < bodies.length) (hp : i < payloads.length),
        Cipher.decryptPart k (i + 1) bodies[i] = .ok payloads[i]

lemma Course.object_of_all (h : Course policy forced (Agreed path total) b t) (hpos : 0 < total)
    (hv : b.holding policy.keyRoot path = .vacant)
    (hall : ∀ i < total, ∃ f ∈ t.flights, f.path = path ∧ f.request.chunk.current = i + 1 ∧
      ∃ c, f.outcome = some (.ok c)) : (t.holding policy path).object.isSome = true := by
  have hl := (Law.keeping_kept hpos hv).holds h
  by_contra hn
  have hmem : ∀ i < total, i + 1 ∈ (t.holding policy path).parts.numbers := by
    intro i hi
    obtain ⟨f, hf, hp, hcurrent, c, hc⟩ := hall i hi
    rcases hl.stages f hf hp with hrest | ⟨s, hs, hstage⟩
    · simp [Flight.outcome, hrest] at hc
    · rw [hs.outcome] at hc
      cases s <;> cases hc
      rw [← hcurrent]
      exact hstage.resolve_right hn
  have hcount := Parts.le_count hmem
  have hlt : (t.holding policy path).parts.count < total := hl.holding
  omega

lemma Course.uploaded_of_returned (h : Course policy False (Agreed path total) b t)
    (hv : b.holding policy.keyRoot path = .vacant) (ho : (t.holding policy path).object.isSome = true)
    (hdone : ∀ f ∈ t.flights, f.path = path → f.outcome.isSome = true) : (t.holding policy path).uploaded = true := by
  rcases h.finishing hv ho with hu | ⟨f, hf, hp, s, hs, hfin⟩
  · exact hu
  · have hout := hdone f hf hp
    rw [hs.outcome] at hout
    cases s with
    | finished result => exact hfin.elim
    | _ => cases hout

lemma Traffic.Supplies.plain (hl : Law.bare.Holds policy path t) {e : Nat × Bytes} (h : t.Supplies path e) :
    ∃ r ∈ t.requests, r.path = path ∧ r.chunk.current = e.1 ∧ r.payload = e.2 := by
  obtain ⟨r, hp, hn, hr, _, key, receipt, hx, hb⟩ := h
  obtain rfl : key = none := hl.exchanges _ hx hp key rfl
  exact ⟨r, hr, hp, hn, Except.ok.inj hb⟩

theorem Smooth.delivered (hv : b.holding policy.keyRoot path = .vacant) (h : Smooth policy b t)
    (hpos : 0 < payloads.length) (hr : ∀ r ∈ t.requests, Carries path payloads r)
    (hdone : ∀ f ∈ t.flights, f.path = path → f.outcome.isSome = true)
    (hall : ∀ i < payloads.length, ∃ f ∈ t.flights, f.path = path ∧ f.request.chunk.current = i + 1 ∧
      ∃ c, f.outcome = some (.ok c)) : t.Delivered policy path payloads := by
  have ha : ∀ r ∈ t.requests, Agreed path payloads.length r := fun r hm hp => (hr r hm hp).1
  have hc := h.course ha
  have hobject := hc.object_of_all hpos hv hall
  have huploaded := hc.uploaded_of_returned hv hobject hdone
  obtain ⟨o, ho⟩ := Option.isSome_iff_exists.mp hobject
  obtain ⟨parts, last, hj⟩ := (hc.filled hv).object o ho
  have hnumbers := hj.numbers ha
  have hlength : parts.bodies.length = payloads.length := by
    have := congrArg List.length hnumbers
    simpa using this
  have hcarried : ∀ r ∈ t.requests, r.path = path → ∀ (i : Nat) (hi : i < payloads.length),
      r.chunk.current = i + 1 → r.payload = payloads[i] := fun r hm hp => (hr r hm hp).2
  refine ⟨?_, Holding.uploaded_iff.mp huploaded, o, parts.bodies, ho, ?_, hlength, fun hk => ?_, fun root hk => ?_⟩
  · have hmarks := hc.uploaded_le hv
    rw [huploaded] at hmarks
    rw [hc.completed_eq_marks]
    have := hc.marks_le hv
    simp only [Bool.toNat_true] at hmarks
    omega
  · rw [hj.eq]
    exact parts.assembled_eq
  · have hl : Law.bare.Holds policy path t := (Law.bare_kept hk).holds hc
    apply List.ext_getElem hlength
    intro i hi hi'
    obtain ⟨r, hm, hp, hn, hpayload⟩ := (hj.supplied _ (Parts.getElem_numbers hnumbers hi)).plain hl
    exact hpayload.symm.trans (hcarried r hm hp i hi' hn)
  · have hl := (Law.locking_kept hk hv).holds hc
    have henciphered : ∀ (i : Nat) (hi : i < parts.bodies.length), t.Enciphered root path (i + 1, parts.bodies[i]) :=
      fun i hi => (hj.supplied _ (Parts.getElem_numbers hnumbers hi)).enciphered hk hl
    obtain ⟨k, _, hkey, _⟩ := henciphered 0 (hlength ▸ hpos)
    refine ⟨k, hkey, fun i hi hi' => ?_⟩
    obtain ⟨k', r, hkey', hm, hp, hn, henc⟩ := henciphered i hi
    obtain rfl : k = k' := Except.ok.inj (hkey.symm.trans hkey')
    rw [← hcarried r hm hp i hi' hn]
    exact Cipher.decryptPart_of_encryptPart henc

theorem overtaken_delivered : ∃ t, Smooth ⟨some "keys", .head⟩ (.withKeys []) t ∧
    t.requests = [.least 1 2, .latter, .latter] ∧ (t.holding ⟨some "keys", .head⟩ "a").parts.numbers = [2] ∧
    t.Delivered ⟨some "keys", .head⟩ "a" [(Request.least 1 2).payload, Request.latter.payload] := by
  -- the second of two encrypted chunks is sent twice, and one upload of it overtakes the other
  obtain ⟨t, hs, hf, hparts, -, -⟩ := Request.exists_overtaken ⟨some "keys", .head⟩
  have hrequests : t.requests = [.least 1 2, .latter, .latter] := by
    rw [Traffic.requests, hf]
    rfl
  have hfirst : Carries "a" [(Request.least 1 2).payload, Request.latter.payload] (.least 1 2) := by
    refine fun _ => ⟨rfl, fun i hi hcurrent => ?_⟩
    obtain rfl : i = 0 := (Nat.succ.inj hcurrent).symm
    rfl
  have hlatter : Carries "a" [(Request.least 1 2).payload, Request.latter.payload] .latter := by
    refine fun _ => ⟨rfl, fun i hi hcurrent => ?_⟩
    obtain rfl : i = 1 := (Nat.succ.inj hcurrent).symm
    rfl
  refine ⟨t, hs, hrequests, hparts, hs.delivered rfl Nat.zero_lt_two ?_ ?_ ?_⟩
  · rw [hrequests]
    simp only [List.forall_mem_cons]
    exact ⟨hfirst, hlatter, hlatter, List.forall_mem_nil _⟩
  · rw [hf]
    simp only [List.forall_mem_cons]
    exact ⟨fun _ => rfl, fun _ => rfl, fun _ => rfl, List.forall_mem_nil _⟩
  · intro i hi
    rw [hf]
    obtain rfl | rfl : i = 0 ∨ i = 1 := by
      have hlt : i < 2 := hi
      omega
    · exact ⟨_, List.mem_cons_self, rfl, rfl, .continuing, rfl⟩
    · exact ⟨_, List.mem_cons_of_mem _ List.mem_cons_self, rfl, rfl, .continuing, rfl⟩

end ResumableUpload.Upload
