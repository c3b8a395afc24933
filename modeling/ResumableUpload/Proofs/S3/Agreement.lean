import ResumableUpload.Proofs.S3.Mirror

/-! Calls that come one after the other get the same answers from the store in memory and from the one on S3. -/

namespace ResumableUpload

namespace ObjectStore

variable {m : ObjectStore} {path : String} {c : Chunk} {payload body : Bytes} {key : Option EncryptionKey}

lemma put_of_small {e : StorageError} (h : c.checkSize payload.size = .error e) :
    m.put path c payload key = (.error e, m) := by rw [put, h]

lemma put_of_unsealed {e : StorageError} (hs : c.checkSize payload.size = .ok ()) (hb : c.body payload key = .error e) :
    m.put path c payload key = (.error e, m) := by
  rw [put, hs]
  dsimp only
  rw [hb]

lemma put_of_lt (hs : c.checkSize payload.size = .ok ()) (hb : c.body payload key = .ok body)
    (hc : ((m.partsOf path).insert c.current body).count < c.total) : m.put path c payload key =
      (.ok ⟨false, partTag body⟩,
        ⟨m.pending.insert path ((m.partsOf path).insert c.current body), m.objects⟩) := by
  simp only [put, hs, hb, place, if_pos hc]

lemma put_of_le (hs : c.checkSize payload.size = .ok ()) (hb : c.body payload key = .ok body)
    (hc : c.total ≤ ((m.partsOf path).insert c.current body).count) : ∃ etag, m.put path c payload key =
      (.ok ⟨true, etag⟩, ⟨m.pending.erase path,
        m.objects.insert path ⟨((m.partsOf path).insert c.current body).assembled, etag⟩⟩) := by
  simp only [put, hs, hb, place, if_neg (Nat.not_lt.mpr hc)]
  exact ⟨_, rfl⟩

end ObjectStore

namespace S3

def Stage.Follows (total : String → Nat) (p : Provider) (m : ObjectStore) (d : Deposit) : Stage → Bucket → Prop
  | find, b => b.Mirrors total m.partsOf m.contentOf
  | create, b => b.Mirrors total m.partsOf m.contentOf ∧ b.first? d.path = none
  | upload uploadId body, b => b.Mirrors total m.partsOf m.contentOf ∧ d.chunk.body d.payload d.key = .ok body ∧
      ∃ u, p.upload? b d.path uploadId = some u
  | list uploadId _ left marker seen, b => ∃ body u, d.chunk.body d.payload d.key = .ok body ∧
      b.Mirrors total (Function.update m.partsOf d.path ((m.partsOf d.path).insert d.chunk.current body)) m.contentOf ∧
      p.upload? b d.path uploadId = some u ∧ seen = (Provider.preceding marker u.parts).map p.listed ∧
      (Provider.following marker u.parts).length ≤ left + 1
  | complete uploadId parts, b => ∃ body u, d.chunk.body d.payload d.key = .ok body ∧
      b.Mirrors total (Function.update m.partsOf d.path ((m.partsOf d.path).insert d.chunk.current body)) m.contentOf ∧
      p.upload? b d.path uploadId = some u ∧ parts = u.parts.entries.map p.listed ∧ d.chunk.total ≤ u.parts.count
  | finished _ result, b =>
      (m.put d.path d.chunk d.payload d.key).1.map (·.complete) = result.map (·.complete) ∧
        b.Mirrors total (m.put d.path d.chunk d.payload d.key).2.partsOf
          (m.put d.path d.chunk d.payload d.key).2.contentOf

section

variable {total : String → Nat} {p : Provider} {m : ObjectStore} {d : Deposit} {stage stage' : Stage} {b b' : Bucket}
  {pages : Nat} {uploadId : String} {u : Multipart} (hs : d.chunk.checkSize d.payload.size = .ok ())
include hs

lemma follows_entered (h : b.Mirrors total m.partsOf m.contentOf) (hu : u ∈ b.uploads) (hk : u.key = d.path) :
    (Stage.entered d (p.name u.number)).Follows total p m d b := by
  rw [Stage.entered]
  cases hb : d.chunk.body d.payload d.key with
  | error e =>
    rw [Stage.Follows, ObjectStore.put_of_unsealed hs hb]
    exact ⟨rfl, h⟩
  | ok body =>
    dsimp only
    rw [if_neg (p.name_ne_empty _)]
    exact ⟨h, hb, u, Provider.upload?_eq_some_iff.mpr ⟨hu, hk, rfl⟩⟩

variable (hin : d.chunk.InRange) (htotal : d.chunk.total = total d.path)
include hin htotal

lemma follows_stored {body : Bytes} (tag : String) (hpages : maxChunks ≤ pages)
    (h : b.Mirrors total m.partsOf m.contentOf) (hb : d.chunk.body d.payload d.key = .ok body)
    (hu : p.upload? b d.path uploadId = some u) :
    (Stage.listing uploadId tag [] pages none).Follows total p m d (b.store u.number d.chunk.current body) := by
  obtain ⟨hmem, hk, hname⟩ := Provider.upload?_eq_some_iff.mp hu
  have hsize : d.chunk.current < total d.path → minChunkSize ≤ body.size := by
    intro hlt
    rw [Chunk.size_of_body hb]
    have hadm : d.chunk.SizeAdmissible d.payload.size := by
      by_contra hn
      rw [Chunk.checkSize, if_neg hn] at hs
      cases hs
    refine hadm.resolve_left fun hf => ?_
    have hfinal : d.chunk.current = d.chunk.total := of_decide_eq_true hf
    omega
  have hmirrors := h.store hmem hk ⟨hin.1, htotal ▸ hin.2.1⟩ hsize
  have hmem' : u.take u.number d.chunk.current body ∈ (b.store u.number d.chunk.current body).uploads :=
    List.mem_map_of_mem hmem
  have hkey : (u.take u.number d.chunk.current body).key = d.path := by rw [Multipart.key_take, hk]
  have hcount : (u.take u.number d.chunk.current body).parts.count ≤ total d.path := by
    rw [hmirrors.parts_eq hmem' hkey]
    exact Parts.count_le (hmirrors.range d.path)
  have hpos : 0 < pages := Nat.lt_of_lt_of_le (by decide) hpages
  obtain ⟨left, rfl⟩ := Nat.exists_eq_add_of_lt hpos
  refine ⟨body, u.take u.number d.chunk.current body, hb, hmirrors,
    Provider.upload?_eq_some_iff.mpr ⟨hmem', hkey, ?_⟩, rfl, ?_⟩
  · rw [Multipart.number_take, hname]
  · have hlimit : total d.path ≤ maxChunks := htotal ▸ hin.2.2
    exact (hcount.trans hlimit).trans hpages

lemma follows_next (hpages : maxChunks ≤ pages) (ht : Turn p pages d stage b stage' b')
    (h : stage.Follows total p m d b) : stage'.Follows total p m d b' := by
  cases ht with
  | found hu => exact follows_entered hs h (Bucket.of_first?_eq_some hu).1 (Bucket.of_first?_eq_some hu).2
  | absent hnone => exact ⟨h, hnone⟩
  | created =>
    have hmem : ⟨b.created, d.path, ∅⟩ ∈ (b.create d.path).uploads :=
      List.mem_append_right _ (List.mem_singleton_self _)
    exact follows_entered hs (h.1.create h.2) hmem rfl
  | stored hu =>
    exact follows_stored hs hin htotal _ hpages h.1 h.2.1 hu
  | @continued _ v uploadId tag next left marker seen shown hu hsplit hpos hlt =>
    obtain ⟨body, u, hb, hmirrors, hu', rfl, hleft⟩ := h
    obtain rfl : u = v := Option.some.inj (hu'.symm.trans hu)
    obtain ⟨left, rfl⟩ : ∃ n, left = n + 1 := ⟨left - 1, by omega⟩
    refine ⟨body, u, hb, hmirrors, hu, ?_, by omega⟩
    rw [hsplit, List.map_append]
  | @listed _ v uploadId tag left marker seen hu =>
    obtain ⟨body, u, hb, hmirrors, hu', rfl, -⟩ := h
    obtain rfl : u = v := Option.some.inj (hu'.symm.trans hu)
    obtain ⟨hmem, hk, -⟩ := Provider.upload?_eq_some_iff.mp hu
    rw [← List.map_append, Provider.preceding_append_following, Stage.counted, List.length_map]
    have hparts : u.parts = (m.partsOf d.path).insert d.chunk.current body := by
      rw [hmirrors.parts_eq hmem hk, Function.update_self]
    split
    · next hc =>
      have hc : ((m.partsOf d.path).insert d.chunk.current body).count < d.chunk.total := hparts ▸ hc
      rw [Stage.Follows, ObjectStore.put_of_lt hs hb hc, ObjectStore.partsOf_insert_eq_update]
      exact ⟨rfl, hmirrors⟩
    · next hc => exact ⟨body, u, hb, hmirrors, hu, rfl, Nat.not_lt.mp hc⟩
  | @completed _ v uploadId etag parts content hu hcompose =>
    obtain ⟨body, u, hb, hmirrors, hu', rfl, hc⟩ := h
    obtain rfl : u = v := Option.some.inj (hu'.symm.trans hu)
    obtain ⟨hmem, hk, -⟩ := Provider.upload?_eq_some_iff.mp hu
    have hparts : u.parts = (m.partsOf d.path).insert d.chunk.current body := by
      rw [hmirrors.parts_eq hmem hk, Function.update_self]
    rw [hmirrors.compose_eq p hmem] at hcompose
    obtain rfl := Except.ok.inj hcompose
    rw [hparts] at hc
    obtain ⟨etag', hput⟩ := ObjectStore.put_of_le hs hb hc
    have hfinish : (b.finish u.number d.path ⟨u.parts.assembled, etag⟩).Mirrors total _ _ := hmirrors.finish hmem hk
    rw [Function.update_idem] at hfinish
    rw [Stage.Follows, hput, ObjectStore.partsOf_erase_eq_update, ObjectStore.contentOf_insert, ← hparts]
    exact ⟨rfl, hfinish⟩
  -- no part but the last is small, and all parts are asked for as they are listed
  | @rejected _ v uploadId parts e hu hcompose =>
    obtain ⟨body, u, hb, hmirrors, hu', rfl, -⟩ := h
    obtain rfl : u = v := Option.some.inj (hu'.symm.trans hu)
    rw [hmirrors.compose_eq p (Provider.upload?_eq_some_iff.mp hu).1] at hcompose
    cases hcompose
  -- no other call runs, so the upload is still open
  | @lost _ stage uploadId e hnone hwithin =>
    have hnot : ∀ u, p.upload? b d.path uploadId ≠ some u := fun u hu => nomatch hnone.symm.trans hu
    cases stage with
    | upload id body =>
      obtain rfl : id = uploadId := hwithin
      obtain ⟨-, -, u, hu⟩ := h
      exact absurd hu (hnot u)
    | list id tag left marker seen =>
      obtain rfl : id = uploadId := hwithin
      obtain ⟨-, u, -, -, hu, -⟩ := h
      exact absurd hu (hnot u)
    | complete id parts =>
      obtain rfl : id = uploadId := hwithin
      obtain ⟨-, u, -, -, hu, -⟩ := h
      exact absurd hu (hnot u)
    | _ => exact hwithin.elim

end

end S3

/-- Chunks have a place in their file, and all that are sent for one path say how many there are in the same way. -/
def StorageCall.Suits (total : String → Nat) : StorageCall → Prop
  | .put path chunk _ _ => chunk.InRange ∧ chunk.total = total path
  | _ => True

def StorageCall.Named : StorageCall → Prop
  | .put path .. => path ≠ ""
  | .head path => path ≠ ""
  | .check => True

def StorageCall.Agrees : (c : StorageCall) → c.Answer → c.Answer → Prop
  | .put .., a, a' => a.map (·.complete) = a'.map (·.complete)
  | .head _, a, a' => a.map (·.length) = a'.map (·.length)
  | .check, a, a' => a = a'

instance : (c : StorageCall) → (a a' : c.Answer) → Decidable (c.Agrees a a')
  | .put .., a, a' => inferInstanceAs (Decidable (a.map (·.complete) = a'.map (·.complete)))
  | .head _, a, a' => inferInstanceAs (Decidable (a.map (·.length) = a'.map (·.length)))
  | .check, a, a' => inferInstanceAs (Decidable (a = a'))

def StorageCall.served {σ : Type} (respond : (c : StorageCall) → σ → c.Answer × σ) (calls : List StorageCall)
    (start : σ) : σ := calls.foldl (fun state c => (respond c state).2) start

def S3Storage.serve (s : S3Storage) (pages : Nat) (p : S3.Provider) (c : StorageCall) (b : S3.Bucket) :
    c.Answer × S3.Bucket := (s.respond pages c).run p.respond b

namespace S3

variable {s : S3Storage} {pages : Nat} {p : Provider} {total : String → Nat} {m : ObjectStore} {b : Bucket}

lemma checkNumber_of_inRange {c : Chunk} (h : c.InRange) : S3Storage.checkNumber c = .ok () := by
  have hlimit : maxChunks < 0x80000000 := by decide
  exact if_pos ((h.2.1.trans h.2.2).trans_lt hlimit)

lemma Bucket.Mirrors.put (h : b.Mirrors total m.partsOf m.contentOf) (hs : s.Usable) (hpages : maxChunks ≤ pages)
    (d : Deposit) (hpath : d.path ≠ "") (hin : d.chunk.InRange) (htotal : d.chunk.total = total d.path) :
    (m.put d.path d.chunk d.payload d.key).1.map (·.complete) =
        ((d.exchange s pages).run p.respond b).1.map (·.complete) ∧
      ((d.exchange s pages).run p.respond b).2.Mirrors total (m.put d.path d.chunk d.payload d.key).2.partsOf
        (m.put d.path d.chunk d.payload d.key).2.contentOf := by
  cases hsize : d.chunk.checkSize d.payload.size with
  | error e =>
    rw [Deposit.exchange, S3Storage.put, hsize, ObjectStore.put_of_small hsize]
    exact ⟨rfl, h⟩
  | ok u =>
    have hstart : Stage.start d = .find := by rw [Stage.start, hsize, checkNumber_of_inRange hin]
    have hleads : Leads s pages d Returned .find (d.exchange s pages) := hstart ▸ exchange_leads hs hpath
    obtain ⟨uploadId, hrun⟩ := hleads.run_kept (I := (Stage.Follows total p m d ·)) h
      fun ht hi => follows_next hsize hin htotal hpages ht hi
    exact hrun

lemma run_send (p : Provider) {α : Type} {q : Request} {rest : List String} {f : q.Answer → Exchange α} (hs : s.Usable)
    (hq : q.labels = s.bucket :: rest) (hrest : ∀ l ∈ rest, l ≠ "") :
    (s.send q >>= f).run p.respond b = (f (p.respond q b).1).run p.respond (p.respond q b).2 := by
  rw [hs.send hq hrest]
  rfl

lemma Bucket.Mirrors.head (h : b.Mirrors total m.partsOf m.contentOf) (hs : s.Usable) {path : String}
    (hpath : path ≠ "") : (m.head path).map (·.length) = ((s.head path).run p.respond b).1.map (·.length) ∧
      ((s.head path).run p.respond b).2 = b := by
  have hlabels : ∀ l ∈ [path], l ≠ "" := List.forall_mem_singleton.mpr hpath
  have hcontent : (b.objects.get? path).map (·.content) = (m.objects.get? path).map (·.content) := congrFun h.stored path
  rw [S3Storage.head, run_send p (q := .headObject s.bucket path) hs rfl hlabels, ObjectStore.head]
  dsimp only [Provider.respond]
  cases hb : b.objects.get? path with
  | none =>
    rw [hb, Option.map_none, eq_comm, Option.map_eq_none_iff] at hcontent
    rw [hcontent]
    exact ⟨rfl, rfl⟩
  | some o =>
    rw [hb, Option.map_some, eq_comm, Option.map_eq_some_iff] at hcontent
    obtain ⟨o', hm, hcontent⟩ := hcontent
    rw [hm]
    have hsize : o'.content.size = o.content.size := by rw [hcontent]
    exact ⟨congrArg Except.ok hsize, rfl⟩

lemma Bucket.Mirrors.serve (h : b.Mirrors total m.partsOf m.contentOf) (hs : s.Usable) (hpages : maxChunks ≤ pages)
    {c : StorageCall} (hname : c.Named) (hc : c.Suits total) : c.Agrees (m.respond c).1 (s.serve pages p c b).1 ∧
      (s.serve pages p c b).2.Mirrors total (m.respond c).2.partsOf (m.respond c).2.contentOf := by
  cases c with
  | put path chunk payload key =>
    exact h.put hs hpages ⟨path, chunk, payload, key⟩ hname hc.1 hc.2
  | head path =>
    obtain ⟨hanswer, hbucket⟩ := h.head (p := p) hs hname
    refine ⟨hanswer, ?_⟩
    rw [S3Storage.serve, S3Storage.respond, hbucket]
    exact h
  | check =>
    have hrun : s.serve pages p .check b = (.ok (), b) := run_send p hs rfl (List.forall_mem_nil _)
    rw [hrun]
    exact ⟨rfl, h⟩

lemma Bucket.Mirrors.served (h : b.Mirrors total m.partsOf m.contentOf) (hs : s.Usable) (hpages : maxChunks ≤ pages)
    {calls : List StorageCall} (hcalls : ∀ c ∈ calls, c.Named ∧ c.Suits total) :
    (StorageCall.served (s.serve pages p) calls b).Mirrors total
      (StorageCall.served ObjectStore.respond calls m).partsOf
      (StorageCall.served ObjectStore.respond calls m).contentOf := by
  induction calls generalizing b m with
  | nil => exact h
  | cons c rest ih =>
    obtain ⟨hc, hrest⟩ := List.forall_mem_cons.mp hcalls
    exact ih (h.serve hs hpages hc.1 hc.2).2 hrest

end S3

end ResumableUpload
