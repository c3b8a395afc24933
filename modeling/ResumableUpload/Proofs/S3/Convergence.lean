import ResumableUpload.Proofs.S3.Standing

/-! Calls that store the chunks of one file on S3 at the same time. If none of them fails, then the file is completed
exactly if they made no more than one upload. -/

namespace ResumableUpload.S3

variable {p : Provider} {path : String} {since n i : Nat} {deposits : List Deposit} {d : Deposit}
  {stage : Nat → Stage} {stage' : Stage} {b b' : Bucket} {u : Multipart} {body : Bytes} {pages : Nat}

structure Closed (p : Provider) (path : String) (deposits : List Deposit) (stage : Nat → Stage) (b : Bucket) (n : Nat) :
    Prop where
  stored : ∀ i < deposits.length, (stage i).Stored (p.name n)
  completed : ∃ i < deposits.length, ∃ etag, stage i = .finished (some (p.name n)) (.ok ⟨true, etag⟩)
  content : ∃ bodies, List.Forall₂ Deposit.Seals deposits bodies ∧ b.contentOf path = some (Bytes.concat bodies)

/-- No call has failed. An open upload of the race that has a part for each call is watched: some call in it goes on to
list every part. An upload that is gone was completed with all of them. -/
structure Sound (p : Provider) (path : String) (since : Nat) (deposits : List Deposit) (stage : Nat → Stage)
    (b : Bucket) : Prop where
  calls : ∀ {i : Nat} {d : Deposit}, deposits[i]? = some d → Local p path since deposits i d (stage i) b
  begun : since ≤ b.created
  own : ∀ u ∈ b.uploads, u.key = path ↔ since ≤ u.number
  made : ∀ u ∈ b.uploads, u.key = path → ∀ e ∈ u.parts.entries,
    ∃ i d, deposits[i]? = some d ∧ e.1 = i + 1 ∧ d.Seals e.2
  joined : ∀ n, since ≤ n → n < b.created → ∃ i < deposits.length, (stage i).uploadId? = some (p.name n)
  watched : ∀ u ∈ b.uploads, u.key = path → deposits.length ≤ u.parts.count →
    ∃ i < deposits.length, (stage i).Watches p u
  closed : ∀ n, since ≤ n → n < b.created → (∀ u ∈ b.uploads, u.number ≠ n) → Closed p path deposits stage b n

lemma exists_update (Q : Stage → Prop) {k : Nat} (h : ∃ j < k, Q (stage j)) (hi : Q (stage i) → Q stage') :
    ∃ j < k, Q (Function.update stage i stage' j) := by
  obtain ⟨j, hj, hq⟩ := h
  refine ⟨j, hj, ?_⟩
  by_cases hji : j = i
  · subst j
    rw [Function.update_self]
    exact hi hq
  · rwa [Function.update_of_ne hji]

namespace Sound

lemma exists_open (h : Sound p path since deposits stage b) (hd : deposits[i]? = some d)
    (hi : ∀ uploadId, ¬ (stage i).Stored uploadId) (hn : since ≤ n) (hlt : n < b.created) :
    ∃ u ∈ b.uploads, u.number = n := by
  -- an upload that is gone has taken in the part of every call
  by_contra hnone
  have hclosed := h.closed n hn hlt fun u hu he => hnone ⟨u, hu, he⟩
  exact hi _ (hclosed.stored i (List.getElem?_eq_some_iff.mp hd).1)

lemma calls_update (h : ∀ {j : Nat} {d' : Deposit}, deposits[j]? = some d' → j ≠ i →
      Local p path since deposits j d' (stage j) b) (hd : deposits[i]? = some d)
    (hlocal : Local p path since deposits i d stage' b) {j : Nat} {d' : Deposit} (hd' : deposits[j]? = some d') :
    Local p path since deposits j d' (Function.update stage i stage' j) b := by
  by_cases hji : j = i
  · subst j
    obtain rfl : d = d' := Option.some.inj (hd.symm.trans hd')
    rwa [Function.update_self]
  · rw [Function.update_of_ne hji]
    exact h hd' hji

lemma move (h : Sound p path since deposits stage b) (hd : deposits[i]? = some d)
    (hlocal : Local p path since deposits i d stage' b)
    (hid : ∀ uploadId, (stage i).uploadId? = some uploadId → stage'.uploadId? = some uploadId)
    (hstored : ∀ uploadId, (stage i).Stored uploadId → stage'.Stored uploadId)
    (hopen : ∀ v r, stage i ≠ .finished v r)
    (hwatch : ∀ u ∈ b.uploads, u.key = path → deposits.length ≤ u.parts.count → (stage i).Watches p u →
      stage'.Watches p u) : Sound p path since deposits (Function.update stage i stage') b where
  calls := calls_update (fun hd' _ => h.calls hd') hd hlocal
  begun := h.begun
  own := h.own
  made := h.made
  joined n hn hlt := exists_update (·.uploadId? = some (p.name n)) (h.joined n hn hlt) (hid _)
  watched u hu hk hc := exists_update (·.Watches p u) (h.watched u hu hk hc) (hwatch u hu hk hc)
  closed n hn hlt hgone := by
    have hclosed := h.closed n hn hlt hgone
    refine ⟨?_, ?_, hclosed.content⟩
    · refine (Function.forall_update_iff stage fun j st => j < deposits.length → st.Stored (p.name n)).mpr
        ⟨fun hi => hstored _ (hclosed.stored i hi), fun j _ => hclosed.stored j⟩
    · exact exists_update (∃ etag, · = .finished (some (p.name n)) (.ok ⟨true, etag⟩)) hclosed.completed
        fun ⟨_, he⟩ => absurd he (hopen _ _)

lemma create (h : Sound p path since deposits stage b) (hd : deposits[i]? = some d)
    (hnone : (stage i).uploadId? = none) (hbody : d.Seals body) :
    Sound p path since deposits (Function.update stage i (.upload (p.name b.created) body)) (b.create path) where
  calls := by
    refine calls_update (fun hd' _ => (h.calls hd').create) hd ?_
    have hmem : ⟨b.created, path, ∅⟩ ∈ (b.create path).uploads := List.mem_append_right _ (List.mem_singleton_self _)
    exact (h.calls hd).create.enter hnone hmem h.begun hbody
  begun := h.begun.trans (Nat.le_succ _)
  own := by
    intro u hu
    rcases List.mem_append.mp hu with hu | hu
    · exact h.own u hu
    · obtain rfl := List.mem_singleton.mp hu
      exact iff_of_true rfl h.begun
  made := by
    intro u hu hk e he
    rcases List.mem_append.mp hu with hu | hu
    · exact h.made u hu hk e he
    · obtain rfl := List.mem_singleton.mp hu
      cases he
  joined := by
    intro n hn hlt
    rcases Nat.lt_succ_iff_lt_or_eq.mp hlt with hlt | rfl
    · exact exists_update (·.uploadId? = some (p.name n)) (h.joined n hn hlt) fun he => nomatch hnone.symm.trans he
    · exact ⟨i, (List.getElem?_eq_some_iff.mp hd).1, by rw [Function.update_self]; rfl⟩
  watched := by
    intro u hu hk hc
    rcases List.mem_append.mp hu with hu | hu
    · exact exists_update (·.Watches p u) (h.watched u hu hk hc) fun hw => nomatch hnone.symm.trans hw.uploadId?_eq
    · obtain rfl := List.mem_singleton.mp hu
      exact absurd hc (Nat.not_le.mpr (Nat.lt_of_le_of_lt (Nat.zero_le i) (List.getElem?_eq_some_iff.mp hd).1))
  closed := by
    intro n hn hlt hgone
    rcases Nat.lt_succ_iff_lt_or_eq.mp hlt with hlt | rfl
    · obtain ⟨u, hu, he⟩ := h.exists_open hd (fun _ hs => nomatch hnone.symm.trans hs.uploadId?_eq) hn hlt
      exact absurd he (hgone u (List.mem_append_left _ hu))
    · exact absurd rfl (hgone _ (List.mem_append_right _ (List.mem_singleton_self _)))

lemma store (h : Sound p path since deposits stage b) (hd : deposits[i]? = some d) (hu : u ∈ b.uploads)
    (hk : u.key = path) (hs : stage i = .upload (p.name u.number) body) (tag : String) (left : Nat) :
    Sound p path since deposits (Function.update stage i (.list (p.name u.number) tag left none []))
      (b.store u.number (i + 1) body) := by
  have hlocal := h.calls hd
  have hunstored : ∀ uploadId, ¬ (stage i).Stored uploadId := fun _ => by
    rw [hs]
    exact id
  have hnew : ∀ v ∈ b.uploads, v.key = path → i + 1 ∉ v.parts.numbers := fun v hv hk hm =>
    hunstored _ ((hlocal.holds v hv hk).mp hm)
  have hbody : d.Seals body := hlocal.body _ _ hs
  have hsince := (h.own u hu).mp hk
  refine
    { calls := fun hd' => ?calls
      begun := h.begun
      own := ?own
      made := ?made
      joined := fun n hn hlt => ?joined
      watched := ?watched
      closed := fun n hn hlt hgone => ?closed }
  case calls =>
    refine calls_update (fun hd' hji => (h.calls hd').store hu ?_ (hnew u hu hk)) hd ?_ hd'
    · exact fun he => hji (Nat.succ_injective he)
    · refine ⟨?_, nofun, fun v hv hkv => ?_, fun _ _ _ _ => List.nil_sublist _, nofun⟩
      · rintro uploadId ⟨⟩
        exact ⟨u.number, hsince, b.below u hu, rfl⟩
      · rcases Bucket.mem_store hu hv with rfl | ⟨hv, hne⟩
        · exact iff_of_true (Parts.mem_numbers_insert.mpr (.inl rfl)) rfl
        · exact iff_of_false (hnew v hv hkv) fun he => hne (p.name_injective he).symm
  case own =>
    intro v hv
    obtain ⟨x, hx, rfl⟩ := List.mem_map.mp hv
    rw [Multipart.key_take, Multipart.number_take]
    exact h.own x hx
  case made =>
    intro v hv hkv e he
    rcases Bucket.mem_store hu hv with rfl | ⟨hv, -⟩
    · rcases Parts.mem_insert he with rfl | he
      · exact ⟨i, d, hd, rfl, hbody⟩
      · exact h.made u hu hk e he
    · exact h.made v hv hkv e he
  case joined =>
    refine exists_update (·.uploadId? = some (p.name n)) (h.joined n hn hlt) fun he => ?_
    rwa [hs] at he
  case watched =>
    intro v hv hkv hc
    rcases Bucket.mem_store hu hv with rfl | ⟨hv, -⟩
    -- whatever the count is now, the call has yet to list this upload
    · exact ⟨i, (List.getElem?_eq_some_iff.mp hd).1, by rw [Function.update_self]; exact ⟨rfl, rfl⟩⟩
    · refine exists_update (·.Watches p v) (h.watched v hv hkv hc) fun hw => ?_
      rw [hs] at hw
      exact hw.elim
  case closed =>
    obtain ⟨v, hv, rfl⟩ := h.exists_open hd hunstored hn hlt
    exact absurd (Multipart.number_take ..) (hgone _ (List.mem_map_of_mem hv))

lemma parts_complete (h : Sound p path since deposits stage b) (hu : u ∈ b.uploads) (hk : u.key = path)
    (hc : deposits.length ≤ u.parts.count) : u.parts.numbers = List.range' 1 deposits.length ∧
      List.Forall₂ Deposit.Seals deposits u.parts.bodies := by
  -- every number is that of a call, so as many numbers as calls are all of them
  have hnumbers : u.parts.numbers = List.range' 1 deposits.length := by
    refine Parts.numbers_eq_range hc fun n hn => ?_
    obtain ⟨body, he⟩ := Parts.mem_numbers.mp hn
    obtain ⟨i, d, hd, rfl, -⟩ := h.made u hu hk _ he
    exact ⟨Nat.le_add_left 1 i, (List.getElem?_eq_some_iff.mp hd).1⟩
  have hlength : u.parts.bodies.length = deposits.length := by
    rw [Parts.length_bodies, ← Parts.length_numbers, hnumbers, List.length_range']
  refine ⟨hnumbers, List.forall₂_iff_get.mpr ⟨hlength.symm, fun i hi hi' => ?_⟩⟩
  obtain ⟨j, d, hd, hj, hseals⟩ := h.made u hu hk _ (Parts.getElem_numbers hnumbers hi')
  obtain rfl : i = j := Nat.succ_injective hj
  obtain ⟨_, rfl⟩ := List.getElem?_eq_some_iff.mp hd
  exact hseals

lemma count_le (h : Sound p path since deposits stage b) (hu : u ∈ b.uploads) (hk : u.key = path) :
    u.parts.count ≤ deposits.length := by
  refine Parts.count_le fun e he => ?_
  obtain ⟨i, d, hd, he, -⟩ := h.made u hu hk e he
  rw [he]
  exact ⟨Nat.le_add_left 1 i, (List.getElem?_eq_some_iff.mp hd).1⟩

lemma seen_all {parts : List ListedPart} (h : Sound p path since deposits stage b) (hd : deposits[i]? = some d)
    (hu : u ∈ b.uploads) (hk : u.key = path) (hs : stage i = .complete (p.name u.number) parts) :
    parts = u.parts.entries.map p.listed ∧ deposits.length ≤ u.parts.count := by
  have hsees := (h.calls hd).sees u hu hk
  rw [hs] at hsees
  obtain ⟨hsub, hlen⟩ := hsees rfl
  -- it has seen at least as many parts as there are calls, and there are no more
  have hparts : parts = u.parts.entries.map p.listed := by
    refine hsub.eq_of_length_le ?_
    rw [List.length_map]
    exact (h.count_le hu hk).trans hlen
  rw [hparts, List.length_map] at hlen
  exact ⟨hparts, hlen⟩

lemma finish {parts : List ListedPart} {content : Bytes} {etag : String} (h : Sound p path since deposits stage b)
    (hd : deposits[i]? = some d) (hu : u ∈ b.uploads) (hk : u.key = path)
    (hs : stage i = .complete (p.name u.number) parts)
    (hcompose : p.compose u.parts (parts.mergeSort S3Storage.numberedFirst) = .ok content) :
    Sound p path since deposits
      (Function.update stage i (.finished (some (p.name u.number)) (.ok ⟨true, etag⟩)))
      (b.finish u.number path ⟨content, etag⟩) := by
  have hlocal := h.calls hd
  have hlt := (List.getElem?_eq_some_iff.mp hd).1
  obtain ⟨hparts, hc⟩ := h.seen_all hd hu hk hs
  obtain ⟨hnumbers, hbodies⟩ := h.parts_complete hu hk hc
  have hcontent : content = Bytes.concat u.parts.bodies := by
    rw [hparts, Provider.mergeSort_listed] at hcompose
    rw [Provider.eq_assembled_of_compose hcompose, Parts.assembled_eq]
  have hstored : (stage i).Stored (p.name u.number) := by
    rw [hs]
    rfl
  have hne : ∀ v ∈ (b.finish u.number path ⟨content, etag⟩).uploads, p.name u.number ≠ p.name v.number :=
    fun v hv he => of_decide_eq_true (List.mem_filter.mp hv).2 (p.name_injective he).symm
  refine
    { calls := fun hd' => ?calls
      begun := h.begun
      own := fun v hv => h.own v (List.mem_of_mem_filter hv)
      made := fun v hv => h.made v (List.mem_of_mem_filter hv)
      joined := fun n hn hlt => ?joined
      watched := fun v hv hkv hc => ?watched
      closed := fun n hn hlt' hgone => ?closed }
  case calls =>
    refine calls_update (fun hd' _ => (h.calls hd').finish _) hd ?_ hd'
    exact (hlocal.finish u.number).proceed hstored rfl (fun _ _ _ => trivial) fun _ _ _ _ => hne
  case joined =>
    refine exists_update (·.uploadId? = some (p.name n)) (h.joined n hn hlt) fun he => ?_
    rwa [hs] at he
  case watched =>
    refine exists_update (·.Watches p v) (h.watched v (List.mem_of_mem_filter hv) hkv hc) fun hw => ?_
    rw [hs] at hw
    exact absurd hw (hne v hv)
  case closed =>
    by_cases hnu : n = u.number
    · subst hnu
      refine ⟨fun j hj => ?_, ⟨i, hlt, etag, Function.update_self ..⟩, u.parts.bodies, hbodies, ?_⟩
      · by_cases hji : j = i
        · subst hji
          rw [Function.update_self]
          rfl
        · rw [Function.update_of_ne hji]
          refine ((h.calls (List.getElem?_eq_getElem hj)).holds u hu hk).mp ?_
          rw [hnumbers, List.mem_range'_1]
          omega
      · rw [Bucket.contentOf_finish, Function.update_self, hcontent]
    -- another upload cannot be gone already: this call would have stored its part in that one
    · have hclosed := h.closed n hn hlt' fun v hv he =>
        hgone v (List.mem_filter.mpr ⟨hv, decide_eq_true (he ▸ hnu)⟩) he
      have hother := (hclosed.stored i hlt).uploadId?_eq
      rw [hstored.uploadId?_eq] at hother
      exact absurd (p.name_injective (Option.some.inj hother)).symm hnu

lemma find (h : Sound p path since deposits stage b) (hd : deposits[i]? = some d) (hs : stage i = .find)
    (hu : u ∈ b.uploads) (hk : u.key = path) (hbody : d.Seals body) :
    Sound p path since deposits (Function.update stage i (.upload (p.name u.number) body)) b := by
  have hnone : (stage i).uploadId? = none := by rw [hs]; rfl
  refine h.move hd ((h.calls hd).enter hnone hu ((h.own u hu).mp hk) hbody) (fun _ he => nomatch hnone.symm.trans he)
    (fun _ hv => nomatch hnone.symm.trans hv.uploadId?_eq) (fun _ _ he => nomatch hs.symm.trans he)
    fun _ _ _ _ hw => nomatch hnone.symm.trans hw.uploadId?_eq

lemma absent (h : Sound p path since deposits stage b) (hd : deposits[i]? = some d) (hs : stage i = .find) :
    Sound p path since deposits (Function.update stage i .create) b := by
  have hlocal : Local p path since deposits i d .create b := by
    have hfind := h.calls hd
    rw [hs] at hfind
    exact { hfind with known := nofun, body := nofun, ended := nofun }
  refine h.move hd hlocal ?_ ?_ (fun _ _ he => nomatch hs.symm.trans he) ?_
  all_goals
    rw [hs]
    intros
    contradiction

section

variable {uploadId tag : String} {left : Nat} {marker : Option String} {seen : List ListedPart}
  (h : Sound p path since deposits stage b) (hd : deposits[i]? = some d) (hu : u ∈ b.uploads) (hk : u.key = path)
  (hs : stage i = .list (p.name u.number) tag left marker seen)
include h hd hu hk hs

lemma list (hstored : stage'.Stored (p.name u.number)) (hsees : stage'.Sees p deposits.length u)
    (hended : ∀ v r, stage' = .finished v (.ok r) → r.complete = false)
    (hwatch : deposits.length ≤ u.parts.count → (stage i).Watches p u → stage'.Watches p u) :
    Sound p path since deposits (Function.update stage i stage') b := by
  have hstored' : (stage i).Stored (p.name u.number) := by
    rw [hs]
    rfl
  have hsame : ∀ v ∈ b.uploads, some (p.name u.number) = some (p.name v.number) → v = u := fun v hv he =>
    (Bucket.eq_of_number hu hv (p.name_injective (Option.some.inj he))).symm
  refine h.move hd ((h.calls hd).proceed hstored' hstored (fun v hv _ => ?_) fun v r hr hc => ?_) (fun v hv => ?_)
    (fun v hv => ?_) (fun _ _ he => nomatch hs.symm.trans he) fun v hv _ hc hw => ?_
  · by_cases he : stage'.uploadId? = some (p.name v.number)
    · rwa [hsame v hv (hstored.uploadId?_eq.symm.trans he)]
    · exact Stage.sees_of_ne he
  · cases hc.symm.trans (hended v r hr)
  · rw [hstored.uploadId?_eq, ← hstored'.uploadId?_eq, hv]
  · rwa [← Option.some.inj (hstored'.uploadId?_eq.symm.trans hv.uploadId?_eq)]
  · obtain rfl := hsame v hv (hstored'.uploadId?_eq.symm.trans hw.uploadId?_eq)
    exact hwatch hc hw

lemma continued {next : String} {shown : List (Nat × Bytes)} (left' : Nat)
    (hshown : Provider.preceding (some next) u.parts = Provider.preceding marker u.parts ++ shown) :
    Sound p path since deposits (Function.update stage i
      (.list (p.name u.number) tag left' (some next) (seen ++ shown.map p.listed))) b := by
  have hsees := (h.calls hd).sees u hu hk
  rw [hs] at hsees
  refine h.list hd hu hk hs rfl (fun _ => ?_) nofun fun _ hw => ⟨rfl, ?_⟩
  · rw [hshown, List.map_append]
    exact (hsees rfl).append (.refl _)
  · rw [hs] at hw
    rw [hshown, List.map_append, ← hw.2]

lemma counted (hf : Fleet path deposits) : Sound p path since deposits (Function.update stage i
      (.counted d (p.name u.number) tag (seen ++ (Provider.following marker u.parts).map p.listed))) b := by
  have hsees := (h.calls hd).sees u hu hk
  rw [hs] at hsees
  have hsub : (seen ++ (Provider.following marker u.parts).map p.listed).Sublist (u.parts.entries.map p.listed) := by
    rw [← Provider.preceding_append_following marker u.parts, List.map_append]
    exact (hsees rfl).append (.refl _)
  rw [Stage.counted, hf.total hd]
  split
  · next hlt =>
    refine h.list hd hu hk hs rfl trivial (fun v r he => by cases he; rfl) fun hc hw => ?_
    rw [hs] at hw
    rw [hw.2, ← List.map_append, Provider.preceding_append_following, List.length_map] at hlt
    exact absurd hc (Nat.not_le.mpr hlt)
  · next hle => exact h.list hd hu hk hs rfl (fun _ => ⟨hsub, Nat.not_lt.mp hle⟩) nofun fun _ _ => rfl

end

lemma turn (h : Sound p path since deposits stage b) (hf : Fleet path deposits) (hd : deposits[i]? = some d)
    (ht : Turn p pages d (stage i) b stage' b') :
    stage'.Failed ∨ Sound p path since deposits (Function.update stage i stage') b' := by
  have hpath := hf.path hd
  generalize hs : stage i = st at ht
  cases ht with
  | found hu =>
    obtain ⟨hmem, hk⟩ := Bucket.of_first?_eq_some hu
    rw [Stage.entered]
    cases hb : d.chunk.body d.payload d.key with
    | error e => exact .inl trivial
    | ok body =>
      dsimp only
      rw [if_neg (p.name_ne_empty _)]
      exact .inr (h.find hd hs hmem (hk.trans hpath) hb)
  | absent hnone => exact .inr (h.absent hd hs)
  | created =>
    rw [Stage.entered]
    cases hb : d.chunk.body d.payload d.key with
    | error e => exact .inl trivial
    | ok body =>
      dsimp only
      rw [if_neg (p.name_ne_empty _), hpath]
      exact .inr (h.create hd (by rw [hs]; rfl) hb)
  | stored hu =>
    obtain ⟨hmem, hk, rfl⟩ := Provider.upload?_eq_some_iff.mp hu
    cases pages with
    | zero => exact .inl trivial
    | succ left =>
      rw [hf.current hd]
      exact .inr (h.store hd hmem (hk.trans hpath) hs _ left)
  | @continued _ _ _ _ _ left _ _ _ hu hshown =>
    obtain ⟨hmem, hk, rfl⟩ := Provider.upload?_eq_some_iff.mp hu
    cases left with
    | zero => exact .inl trivial
    | succ left => exact .inr (h.continued hd hmem (hk.trans hpath) hs left hshown)
  | listed hu =>
    obtain ⟨hmem, hk, rfl⟩ := Provider.upload?_eq_some_iff.mp hu
    exact .inr (h.counted hd hmem (hk.trans hpath) hs hf)
  | completed hu hcompose =>
    obtain ⟨hmem, hk, rfl⟩ := Provider.upload?_eq_some_iff.mp hu
    rw [hpath]
    exact .inr (h.finish hd hmem (hk.trans hpath) hs hcompose)
  | rejected _ _ => exact .inl trivial
  | lost _ _ => exact .inl trivial

lemma created_of_complete {v : Option String} {r : PartReceipt} (h : Sound p path since deposits stage b)
    (hi : i < deposits.length) (hs : stage i = .finished v (.ok r)) (hr : r.complete = true) :
    b.created = since + 1 := by
  have hlocal := h.calls (List.getElem?_eq_getElem hi)
  obtain ⟨n, rfl, hgone⟩ := hlocal.ended v r hs
  obtain ⟨m, hm, hlt, hname⟩ := hlocal.known (p.name n) (by rw [hs]; rfl)
  obtain rfl : n = m := p.name_injective hname
  have hclosed := h.closed n hm hlt (hgone hr)
  -- every upload is known to some call, and every call has stored its part in the upload that is gone
  have honly : ∀ k, since ≤ k → k < b.created → k = n := by
    intro k hk hlt
    obtain ⟨j, hj, hid⟩ := h.joined k hk hlt
    exact p.name_injective (Option.some.inj (hid.symm.trans (hclosed.stored j hj).uploadId?_eq))
  have hfirst := honly since le_rfl (hm.trans_lt hlt)
  have hlast := honly (b.created - 1) (by omega) (by omega)
  omega

lemma closed_of_created (h : Sound p path since deposits stage b) (hcreated : b.created = since + 1)
    (hended : ∀ i < deposits.length, ∃ v r, stage i = .finished v (.ok r)) : Closed p path deposits stage b since := by
  refine h.closed since le_rfl (by omega) fun u hu hnumber => ?_
  have hk : u.key = path := (h.own u hu).mpr hnumber.ge
  have hcount : deposits.length ≤ u.parts.count := by
    refine Parts.le_count fun i hi => ?_
    obtain ⟨v, r, hs⟩ := hended i hi
    have hlocal := h.calls (List.getElem?_eq_getElem hi)
    obtain ⟨n, rfl, -⟩ := hlocal.ended v r hs
    obtain ⟨m, hm, hlt, hname⟩ := hlocal.known (p.name n) (by rw [hs]; rfl)
    refine (hlocal.holds u hu hk).mpr ?_
    rw [hs, hname, show m = u.number by omega]
    rfl
  -- an open upload with all parts is still to be listed by some call
  obtain ⟨i, hi, hwatch⟩ := h.watched u hu hk hcount
  obtain ⟨v, r, hs⟩ := hended i hi
  rw [hs] at hwatch
  exact hwatch

end Sound

lemma Turn.not_failed {st : Stage} (h : Turn p pages d st b stage' b') : ¬ st.Failed := by
  cases h with
  | @lost _ st _ _ _ hwithin =>
    cases st with
    | finished v r => exact hwithin.elim
    | _ => exact id
  | _ => exact id

namespace Race

variable {s : S3Storage} {t : Race}

/-- Some call says that all parts are stored, and the object consists of the chunks of all calls. -/
def Converged (t : Race) (path : String) (deposits : List Deposit) : Prop :=
  (∃ r : PartReceipt, .done (.ok r) ∈ t.calls ∧ r.complete = true) ∧
    ∃ bodies, List.Forall₂ Deposit.Seals deposits bodies ∧ t.bucket.contentOf path = some (Bytes.concat bodies)

lemma sound_start (hfirst : ∀ u ∈ b.uploads, u.key ≠ path)
    (hstage : ∀ {i : Nat} {d : Deposit}, deposits[i]? = some d → stage i = .find) :
    Sound p path b.created deposits stage b where
  calls hd := by
    rw [hstage hd]
    exact ⟨nofun, nofun, fun u hu hk => absurd hk (hfirst u hu), fun _ _ _ => trivial, nofun⟩
  begun := le_rfl
  own u hu := iff_of_false (hfirst u hu) (Nat.not_le.mpr (b.below u hu))
  made u hu hk := absurd hk (hfirst u hu)
  joined n hn hlt := absurd hlt (Nat.not_lt.mpr hn)
  watched u hu hk := absurd hk (hfirst u hu)
  closed n hn hlt := absurd hlt (Nat.not_lt.mpr hn)

lemma start_cases (d : Deposit) : Stage.start d = .find ∨ (Stage.start d).Failed := by
  rw [Stage.start]
  split
  · exact .inr trivial
  · exact .inr trivial
  · exact .inl rfl

lemma sound_of_runs (hs : s.Usable) (hpath : path ≠ "") (hf : Fleet path deposits)
    (hfirst : ∀ u ∈ b.uploads, u.key ≠ path) (h : Relation.ReflTransGen (Step p) (start s pages deposits b) t) :
    ∃ stage, t.Stands s pages deposits stage ∧
      ((∃ i < deposits.length, (stage i).Failed) ∨ Sound p path b.created deposits stage t.bucket) := by
  induction h with
  | refl =>
    refine ⟨_, stands_start hs hpath hf, ?_⟩
    by_cases hall : ∀ d ∈ deposits, Stage.start d = .find
    · right
      refine sound_start hfirst fun {i d} hd => ?_
      rw [hd]
      exact hall d (List.mem_of_getElem? hd)
    · left
      obtain ⟨d, hd⟩ := not_forall.mp hall
      obtain ⟨hmem, hstart⟩ := Classical.not_imp.mp hd
      obtain ⟨i, hi, rfl⟩ := List.getElem_of_mem hmem
      refine ⟨i, hi, ?_⟩
      rw [List.getElem?_eq_getElem hi]
      exact (start_cases _).resolve_left hstart
  | tail _ hstep ih =>
    obtain ⟨stage, hstands, hi⟩ := ih
    obtain ⟨i, d, stage', hd, hturn, hstands'⟩ := hstands.step hstep
    refine ⟨_, hstands', ?_⟩
    rcases hi with hfailed | hsound
    · exact .inl (exists_update Stage.Failed hfailed fun hi => absurd hi hturn.not_failed)
    · rcases hsound.turn hf hd hturn with hfailed | hsound
      · refine .inl ⟨i, (List.getElem?_eq_some_iff.mp hd).1, ?_⟩
        rwa [Function.update_self]
      · exact .inr hsound

/-- Where all calls end well, they have stored the file exactly if they made one upload between them. -/
theorem converged_iff (hs : s.Usable) (hpath : path ≠ "") (hf : Fleet path deposits)
    (hfirst : ∀ u ∈ b.uploads, u.key ≠ path) (h : Relation.ReflTransGen (Step p) (start s pages deposits b) t)
    (hok : ∀ x ∈ t.calls, ∃ r, x = .done (.ok r)) :
    t.Converged path deposits ↔ t.bucket.created = b.created + 1 := by
  obtain ⟨stage, hstands, hi⟩ := sound_of_runs hs hpath hf hfirst h
  have hended : ∀ i < deposits.length, ∃ v r, stage i = .finished v (.ok r) := by
    intro i hi
    have hlt : i < t.calls.length := hstands.length.symm ▸ hi
    obtain ⟨r, hr⟩ := hok _ (List.getElem_mem hlt)
    have hcall : t.calls[i]? = some (.done (.ok r)) := by rw [List.getElem?_eq_getElem hlt, hr]
    obtain ⟨-, v, hv⟩ := hstands.finished hcall
    exact ⟨v, r, hv⟩
  have hsound : Sound p path b.created deposits stage t.bucket := by
    refine hi.resolve_left ?_
    rintro ⟨i, hi, hfailed⟩
    obtain ⟨v, r, hv⟩ := hended i hi
    rw [hv] at hfailed
    exact hfailed
  constructor
  · rintro ⟨⟨r, hmem, hcomplete⟩, -⟩
    obtain ⟨i, hcall⟩ := List.getElem?_of_mem hmem
    obtain ⟨hlt, v, hv⟩ := hstands.finished hcall
    exact hsound.created_of_complete hlt hv hcomplete
  · intro hcreated
    have hclosed := hsound.closed_of_created hcreated hended
    obtain ⟨i, hi, etag, hcompleted⟩ := hclosed.completed
    have hlt : i < t.calls.length := hstands.length.symm ▸ hi
    exact ⟨⟨_, List.mem_of_getElem (hstands.result hlt hcompleted), rfl⟩, hclosed.content⟩

def twoParts (payload : Bytes) : List Deposit :=
  [⟨"a", ⟨"", "", 1, 2⟩, payload, none⟩, ⟨"a", ⟨"", "", 2, 2⟩, ⟨#[7]⟩, none⟩]

lemma fleet_twoParts (payload : Bytes) : Fleet "a" (twoParts payload) := by
  refine ⟨?_, ?_, ?_⟩ <;> rintro (_ | _ | i) d ⟨⟩ <;> rfl

lemma start_twoParts {payload : Bytes} (hsize : minChunkSize ≤ payload.size) :
    ∀ d ∈ twoParts payload, Stage.start d = .find := by
  have hfirst : Chunk.checkSize ⟨"", "", 1, 2⟩ payload.size = .ok () := if_pos (.inr hsize)
  refine List.forall_mem_cons.mpr ⟨?_, List.forall_mem_singleton.mpr rfl⟩
  rw [Stage.start, hfirst]
  rfl

def begun (payload : Bytes) : (Nat → Stage) × Bucket :=
  [0, 0].foldl (advance .counting .testing maxChunks (twoParts payload)) (fun _ => .find, .empty)

def joined (payload : Bytes) : (Nat → Stage) × Bucket :=
  [1, 1, 0, 0].foldl (advance .counting .testing maxChunks (twoParts payload))
    (Function.update (begun payload).1 1 (.upload (Provider.counting.name 0) ⟨#[7]⟩), (begun payload).2)

lemma exists_joined {payload : Bytes} (hsize : minChunkSize ≤ payload.size) : ∃ t,
    Relation.ReflTransGen (Step .counting) (start .testing maxChunks (twoParts payload) .empty) t ∧
      t.bucket = (joined payload).2 ∧ t.Stands .testing maxChunks (twoParts payload) (joined payload).1 := by
  obtain ⟨t₁, hrun₁, hbucket₁, hstands₁⟩ := exists_played (p := .counting) (b := .empty) maxChunks S3Storage.usable_testing
    (by decide) (fleet_twoParts payload) (start_twoParts hsize) [0, 0]
  obtain ⟨t₂, hrun₂, hbucket₂, hstands₂⟩ := hstands₁.advanced (p := .counting) 1
  have hfind : advance .counting .testing maxChunks (twoParts payload) (begun payload) 1 = _ :=
    advance_find (u := ⟨0, "a", ∅⟩) rfl (by with_unfolding_all rfl) (by with_unfolding_all rfl) rfl
  rw [hbucket₁] at hbucket₂ hstands₂
  change t₂.bucket = (advance .counting .testing maxChunks (twoParts payload) (begun payload) 1).2 at hbucket₂
  change t₂.Stands _ _ _ (advance .counting .testing maxChunks (twoParts payload) (begun payload) 1).1 at hstands₂
  rw [hfind] at hbucket₂ hstands₂
  -- the second call stores its part and lists what is there before the first one does
  obtain ⟨t₃, hrun₃, hbucket₃, hstands₃⟩ := hstands₂.played (p := .counting) [1, 1, 0, 0]
  rw [hbucket₂] at hbucket₃ hstands₃
  exact ⟨t₃, (hrun₁.trans hrun₂).trans hrun₃, hbucket₃, hstands₃⟩

lemma exists_seen {payload : Bytes} (hsize : minChunkSize ≤ payload.size) : ∃ u : Multipart,
    Provider.counting.upload? (joined payload).2 "a" (Provider.counting.name u.number) = some u ∧
      (joined payload).1 0 = .complete (Provider.counting.name u.number) (u.parts.entries.map Provider.counting.listed) ∧
      ∀ e ∈ u.parts.entries.dropLast, minChunkSize ≤ e.2.size := by
  have hopen : (Provider.counting.upload? (joined payload).2 "a" (Provider.counting.name 0)).map (·.parts.entries) =
      some [(1, payload), (2, ⟨#[7]⟩)] := by
    with_unfolding_all rfl
  have hcomplete : (joined payload).1 0 = .complete (Provider.counting.name 0)
      [Provider.counting.listed (1, payload), Provider.counting.listed (2, ⟨#[7]⟩)] := by
    with_unfolding_all rfl
  obtain ⟨u, hu, hentries⟩ := Option.map_eq_some_iff.mp hopen
  have hname : Provider.counting.name u.number = Provider.counting.name 0 := (Provider.upload?_eq_some_iff.mp hu).2.2
  refine ⟨u, hname ▸ hu, ?_, ?_⟩
  · rw [hcomplete, hentries, hname]
    rfl
  · rw [hentries]
    exact List.forall_mem_singleton.mpr hsize

lemma exists_shared {payload : Bytes} (hsize : minChunkSize ≤ payload.size) : ∃ t,
    Relation.ReflTransGen (Step .counting) (start .testing maxChunks (twoParts payload) .empty) t ∧
      t.bucket.created = 1 ∧ ∀ x ∈ t.calls, ∃ r, x = .done (.ok r) := by
  obtain ⟨t₁, hrun₁, hbucket₁, hstands₁⟩ := exists_joined hsize
  obtain ⟨u, hu, hseen, hlarge⟩ := exists_seen hsize
  have hfirst : (twoParts payload)[0]? = some ⟨"a", ⟨"", "", 1, 2⟩, payload, none⟩ := rfl
  obtain ⟨etag, o, hlast⟩ := advance_complete (s := .testing) hfirst hseen hu hlarge
  obtain ⟨t, hrun₂, hbucket, hstands⟩ := hstands₁.advanced (p := .counting) 0
  rw [hbucket₁, hlast] at hbucket hstands
  dsimp only at hbucket hstands
  have hwaiting : ((joined payload).1 1).receipt?.isSome = true := by
    with_unfolding_all rfl
  have hcreated : (joined payload).2.created = 1 := by
    with_unfolding_all rfl
  have hanswered : ∀ x ∈ t.calls, ∃ r, x = .done (.ok r) ∧ True := by
    intro x hx
    refine hstands.answered (fun i hi => ?_) hx
    obtain rfl | rfl : i = 0 ∨ i = 1 := by
      change i < 2 at hi
      omega
    · exact ⟨⟨true, etag⟩, by rw [Function.update_self]; rfl, trivial⟩
    · rw [Function.update_of_ne Nat.one_ne_zero]
      exact (Option.isSome_iff_exists.mp hwaiting).imp fun r hr => ⟨hr, trivial⟩
  refine ⟨t, hrun₁.trans hrun₂, ?_, fun x hx => (hanswered x hx).imp fun _ hr => hr.1⟩
  rw [hbucket]
  exact hcreated

theorem shared_converged : ∃ (payload : Bytes) (t : Race), minChunkSize ≤ payload.size ∧
    Relation.ReflTransGen (Step .counting) (start .testing maxChunks (twoParts payload) .empty) t ∧
      t.bucket.created = 1 ∧ t.Converged "a" (twoParts payload) := by
  obtain ⟨payload, hsize⟩ := S3.exists_payload
  obtain ⟨t, hrun, hcreated, hok⟩ := exists_shared hsize
  exact ⟨payload, t, hsize, hrun, hcreated, (converged_iff S3Storage.usable_testing (by decide) (fleet_twoParts payload)
    (List.forall_mem_nil _) hrun hok).mpr hcreated⟩

/-- Two calls that both look for an upload before either has made one make an upload each, and neither sees all parts. -/
theorem two_unconverged : ¬ ∀ (p : Provider) (s : S3Storage) (pages : Nat) (path : String) (deposits : List Deposit)
    (b : Bucket) (t : Race), s.Usable → path ≠ "" → Fleet path deposits → (∀ u ∈ b.uploads, u.key ≠ path) →
      Relation.ReflTransGen (Step p) (start s pages deposits b) t → (∀ x ∈ t.calls, ∃ r, x = .done (.ok r)) →
        t.Converged path deposits := by
  intro hall
  obtain ⟨payload, hsize⟩ := S3.exists_payload
  -- both look for an upload, both make one, both store their part, and both list the parts of their own upload
  obtain ⟨t, hrun, -, hstands⟩ := exists_played (p := .counting) (b := .empty) maxChunks S3Storage.usable_testing (by decide)
    (fleet_twoParts payload) (start_twoParts hsize) [0, 1, 0, 1, 0, 1, 0, 1]
  have hanswered : ∀ x ∈ t.calls, ∃ r, x = .done (.ok r) ∧ r.complete = false := by
    intro x hx
    refine hstands.answered (fun i hi => Option.map_eq_some_iff.mp ?_) hx
    obtain rfl | rfl : i = 0 ∨ i = 1 := by
      change i < 2 at hi
      omega
    · with_unfolding_all rfl
    · with_unfolding_all rfl
  have hconverged := hall _ _ _ _ _ _ t S3Storage.usable_testing (by decide) (fleet_twoParts payload) (List.forall_mem_nil _)
    hrun fun x hx => (hanswered x hx).imp fun _ hr => hr.1
  obtain ⟨⟨r, hmem, hcomplete⟩, -⟩ := hconverged
  obtain ⟨r', hr, hincomplete⟩ := hanswered _ hmem
  cases hr
  exact Bool.false_ne_true (hincomplete.symm.trans hcomplete)

end Race

end ResumableUpload.S3
