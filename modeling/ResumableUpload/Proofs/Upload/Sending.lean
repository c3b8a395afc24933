import ResumableUpload.Proofs.Cipher.Feedback
import ResumableUpload.Proofs.Text.Trim
import ResumableUpload.Proofs.Upload.Alone

/-! The chunks of a file sent one after the other, over whatever earlier uploads left at its path. -/

namespace ResumableUpload

def openPart (key : Option EncryptionKey) (n : Nat) (body : Bytes) : Except StorageError Bytes :=
  match key with
  | none => .ok body
  | some k => Cipher.decryptPart k n body

def StandsFor (key : Option EncryptionKey) (payloads : List Bytes) (e : Nat × Bytes) : Prop :=
  ∃ (i : Nat) (h : i < payloads.length), e.1 = i + 1 ∧ openPart key e.1 e.2 = .ok payloads[i]

def StoredObject.MadeOf (o : StoredObject) (key : Option EncryptionKey) (payloads : List Bytes) : Prop :=
  ∃ bodies : List Bytes, o.content = Bytes.concat bodies ∧ bodies.length = payloads.length ∧
    ∀ (i : Nat) (hb : i < bodies.length) (hp : i < payloads.length), openPart key (i + 1) bodies[i] = .ok payloads[i]

structure Sendable (key : Option EncryptionKey) (payloads : List Bytes) : Prop where
  few : payloads.length ≤ maxChunks
  large : ∀ (i : Nat) (h : i < payloads.length), i + 1 < payloads.length → minChunkSize ≤ payloads[i].size
  body : ∀ (c : Chunk) (payload : Bytes), ∃ body, c.body payload key = .ok body

variable {key : Option EncryptionKey} {payloads : List Bytes}

lemma openPart_of_body {c : Chunk} {payload body : Bytes} (h : c.body payload key = .ok body) :
    openPart key c.current body = .ok payload := by
  cases key with
  | none => exact congrArg _ (Except.ok.inj h).symm
  | some k => exact Cipher.decryptPart_of_encryptPart h

lemma exists_body_of_body {c : Chunk} {payload body : Bytes} (h : c.body payload key = .ok body) (d : Chunk)
    (other : Bytes) : ∃ body, d.body other key = .ok body := by
  cases key with
  | none => exact ⟨other, rfl⟩
  | some k =>
    rw [Chunk.body, Cipher.encryptPart] at h
    split at h
    · next hk => exact exists_body_of_size hk d other
    · cases h

namespace Parts

variable {p : Parts}

lemma numbers_of_standsFor (hs : ∀ e ∈ p.entries, StandsFor key payloads e) :
    ∀ n ∈ p.numbers, 1 ≤ n ∧ n ≤ payloads.length := by
  intro n hn
  obtain ⟨body, he⟩ := mem_numbers.mp hn
  obtain ⟨i, hi, rfl, _⟩ := hs _ he
  exact ⟨Nat.le_add_left 1 i, hi⟩

lemma count_lt_of_first_missing (hs : ∀ e ∈ p.entries, StandsFor key payloads e) (hpos : 0 < payloads.length)
    (h : 1 ∉ p.numbers) : p.count < payloads.length := by
  by_contra hc
  apply h
  rw [numbers_eq_range (Nat.le_of_not_lt hc) (numbers_of_standsFor hs), List.mem_range'_1]
  omega

lemma madeOf_of_standsFor (hs : ∀ e ∈ p.entries, StandsFor key payloads e) (hc : payloads.length ≤ p.count)
    (etag : String) : StoredObject.MadeOf ⟨p.assembled, etag⟩ key payloads := by
  have hnumbers := numbers_eq_range hc (numbers_of_standsFor hs)
  have hlength : p.bodies.length = payloads.length := by
    have := congrArg List.length hnumbers
    simpa using this
  refine ⟨p.bodies, p.assembled_eq, hlength, fun i hb hp => ?_⟩
  obtain ⟨j, hj, he, hopen⟩ := hs _ (getElem_numbers hnumbers hb)
  obtain rfl : i = j := Nat.succ.inj he
  exact hopen

end Parts

namespace Upload

structure Request.Brings (r : Request) (path : String) (payloads : List Bytes) (n : Nat) : Prop where
  path : r.path = path
  current : r.chunk.current = n + 1
  total : r.chunk.total = payloads.length
  payload : payloads[n]? = some r.payload

end Upload

namespace Holding

structure Gathering (m : FileMetadata) (n : Nat) (h : Holding) : Prop where
  object : h.object = none
  record : ∃ old, h.record = some ⟨m, .created, old⟩
  numbers : ∀ i, 1 ≤ i → i ≤ n → i ∈ h.parts.numbers

structure Joined (key : Option EncryptionKey) (payloads : List Bytes) (n : Nat) (h : Holding) : Prop where
  parts : 1 ∉ h.parts.numbers
  object : ∃ o f, h.object = some o ∧ o.MadeOf key payloads ∧ h.record = some f ∧
    (f.state = .uploaded → f.etag = some (ETag.unquote o.etag)) ∧ (n = payloads.length → f.state = .uploaded)

structure Underway (policy : UploadPolicy) (key : Option EncryptionKey) (payloads : List Bytes) (n : Nat)
    (h : Holding) : Prop where
  opens : h.Opens policy key
  parts : ∀ e ∈ h.parts.entries, StandsFor key payloads e
  count : h.parts.count < payloads.length
  stands : (∃ m, h.Gathering m n) ∨ h.Joined key payloads n

structure Finished (policy : UploadPolicy) (key : Option EncryptionKey) (payloads : List Bytes) (h : Holding) :
    Prop where
  opens : h.Opens policy key
  object : ∃ o m etag, h.object = some o ∧ o.MadeOf key payloads ∧ h.record = some ⟨m, .uploaded, some etag⟩ ∧
    ETag.Strips o.etag etag

end Holding

namespace Upload

variable {policy : UploadPolicy} {b : Backends} {path : String} {r : Request} {n : Nat} {h : Holding}

lemma Request.Brings.standsFor (hr : r.Brings path payloads n) {body : Bytes}
    (hb : r.chunk.body r.payload key = .ok body) : StandsFor key payloads (r.chunk.current, body) := by
  obtain ⟨hn, hp⟩ := List.getElem?_eq_some_iff.mp hr.payload
  refine ⟨n, hn, hr.current, ?_⟩
  rw [hp]
  exact openPart_of_body hb

lemma Request.Brings.inRange (hr : r.Brings path payloads n) (hs : Sendable key payloads) : r.chunk.InRange := by
  obtain ⟨hn, _⟩ := List.getElem?_eq_some_iff.mp hr.payload
  rw [Chunk.InRange, hr.current, hr.total]
  exact ⟨Nat.le_add_left 1 n, hn, hs.few⟩

lemma Request.Brings.isFinal (hr : r.Brings path payloads n) :
    r.chunk.isFinal = true ↔ n + 1 = payloads.length := by
  rw [Chunk.isFinal, hr.current, hr.total, decide_eq_true_iff]

lemma Request.Brings.sizeAdmissible (hr : r.Brings path payloads n) (hs : Sendable key payloads) :
    r.chunk.SizeAdmissible r.payload.size := by
  obtain ⟨hn, hp⟩ := List.getElem?_eq_some_iff.mp hr.payload
  by_cases hl : n + 1 = payloads.length
  · exact .inl (hr.isFinal.mpr hl)
  · right
    rw [← hp]
    exact hs.large n hn (by omega)

lemma Request.Brings.insert_standsFor (hr : r.Brings path payloads n) {parts : Parts} {body : Bytes}
    (hb : r.chunk.body r.payload key = .ok body) (hp : ∀ e ∈ parts.entries, StandsFor key payloads e) :
    ∀ e ∈ (parts.insert r.chunk.current body).entries, StandsFor key payloads e := by
  intro e he
  rcases Parts.mem_insert he with rfl | he
  · exact hr.standsFor hb
  · exact hp e he

lemma Request.Brings.isFirst (hr : r.Brings path payloads n) (hn : 1 ≤ n) : r.chunk.isFirst = false := by
  rw [Chunk.isFirst, hr.current]
  exact decide_eq_false (by omega)

end Upload

namespace Holding

open Upload

variable {policy : UploadPolicy} {b : Backends} {path : String} {r : Request} {n : Nat} {h : Holding}

lemma Gathering.next {m : FileMetadata} (hg : h.Gathering m n) (hh : b.holding policy.keyRoot path = h) (hn : 1 ≤ n)
    (hopens : h.Opens policy key) (hp : ∀ e ∈ h.parts.entries, StandsFor key payloads e) (hs : Sendable key payloads)
    (hr : r.Brings path payloads n) : ∃ body, StandsFor key payloads (n + 1, body) ∧
      ((h.parts.insert (n + 1) body).count < payloads.length ∧
          Gathering m (n + 1) { h with parts := h.parts.insert (n + 1) body } ∧
          r.Leaves policy b (.ok .continuing) { h with parts := h.parts.insert (n + 1) body } ∨
        payloads.length ≤ (h.parts.insert (n + 1) body).count ∧
          ∃ o : StoredObject, o.MadeOf key payloads ∧ r.Leaves policy b (.ok .completed)
            ⟨some ⟨m, .uploaded, some (ETag.unquote o.etag)⟩, ∅, some o, h.key⟩) := by
  obtain ⟨body, hb⟩ := hs.body r.chunk r.payload
  obtain ⟨old, hrecord⟩ := hg.record
  have hhere : b.holding policy.keyRoot r.path = h := by rw [hr.path, hh]
  have hstands := hr.standsFor hb
  have hparts := hr.insert_standsFor hb hp
  have hleft := Request.leaves_stored policy hhere (hr.inRange hs) (hr.isFirst hn) (.inr hg.object) hopens
    (hr.sizeAdmissible hs) hb
  have hdone := fun hc => Request.leaves_completed policy hhere (hr.inRange hs) (hr.isFirst hn)
    (.inr hg.object) hopens (hr.sizeAdmissible hs) hb hc rfl hrecord
  rw [hr.current] at hstands hparts hleft hdone
  rw [hr.total] at hleft hdone
  refine ⟨body, hstands, ?_⟩
  rcases Nat.lt_or_ge (h.parts.insert (n + 1) body).count payloads.length with hc | hc
  · refine .inl ⟨hc, ⟨hg.object, hg.record, fun i hpos hi => ?_⟩, hleft hc⟩
    rcases Nat.lt_or_eq_of_le hi with hi | rfl
    · exact Parts.mem_numbers_insert.mpr (.inr (hg.numbers i hpos (Nat.le_of_lt_succ hi)))
    · exact Parts.mem_numbers_insert.mpr (.inl rfl)
  · exact .inr ⟨hc, _, Parts.madeOf_of_standsFor hparts hc _, hdone hc⟩

lemma Joined.next (hj : h.Joined key payloads n) (hh : b.holding policy.keyRoot path = h) (hn : 1 ≤ n)
    (hopens : h.Opens policy key) (hp : ∀ e ∈ h.parts.entries, StandsFor key payloads e) (hs : Sendable key payloads)
    (hr : r.Brings path payloads n) :
    ∃ c h', r.Leaves policy b (.ok c) h' ∧ h'.Underway policy key payloads (n + 1) := by
  -- the last chunk finds the object and only records it; any other one waits, since the first part is not there again
  obtain ⟨o, f, ho, hmade, hf, htag, -⟩ := hj.object
  have hhere : b.holding policy.keyRoot r.path = h := by rw [hr.path, hh]
  have hlt : n < payloads.length := (List.getElem?_eq_some_iff.mp hr.payload).1
  have hpos : 0 < payloads.length := by omega
  by_cases hl : n + 1 = payloads.length
  · have hfinal := hr.isFinal.mpr hl
    have hcount := Parts.count_lt_of_first_missing hp hpos hj.parts
    obtain ⟨m, state, tag⟩ := f
    cases state with
    | created =>
      refine ⟨_, _, Request.leaves_recorded policy hhere (hr.inRange hs) (hr.isFirst hn) hfinal ho hf,
        hopens.congr rfl, hp, hcount, ?_⟩
      exact .inr ⟨hj.parts, o, _, ho, hmade, rfl, fun _ => rfl, fun _ => rfl⟩
    | uploaded =>
      refine ⟨_, _, Request.leaves_conflicted policy hhere (hr.inRange hs) (hr.isFirst hn) hfinal ho hf rfl,
        hopens, hp, hcount, ?_⟩
      exact .inr ⟨hj.parts, o, _, ho, hmade, hf, htag, fun _ => rfl⟩
  · obtain ⟨body, hb⟩ := hs.body r.chunk r.payload
    have hnotfinal : r.chunk.isFinal = false := Bool.eq_false_iff.mpr fun hf => hl (hr.isFinal.mp hf)
    have hparts := hr.insert_standsFor hb hp
    have hfirst : 1 ∉ (h.parts.insert r.chunk.current body).numbers := by
      rw [Parts.mem_numbers_insert, hr.current]
      rintro (he | he)
      · omega
      · exact hj.parts he
    have hcount := Parts.count_lt_of_first_missing hparts hpos hfirst
    refine ⟨_, _, Request.leaves_stored policy hhere (hr.inRange hs) (hr.isFirst hn) (.inl hnotfinal) hopens
      (hr.sizeAdmissible hs) hb (by rw [hr.total]; exact hcount), hopens.congr rfl, hparts, hcount, ?_⟩
    exact .inr ⟨hfirst, o, f, ho, hmade, hf, htag, fun he => absurd he hl⟩

lemma Underway.next (h : (b.holding policy.keyRoot path).Underway policy key payloads n) (hn : 1 ≤ n)
    (hs : Sendable key payloads) (hr : r.Brings path payloads n) :
    ∃ c h', r.Leaves policy b (.ok c) h' ∧ h'.Underway policy key payloads (n + 1) := by
  rcases h.stands with ⟨m, hg⟩ | hj
  · obtain ⟨body, hbody, ⟨hc, hg', hl⟩ | ⟨_, o, hmade, hl⟩⟩ := hg.next rfl hn h.opens h.parts hs hr
    · refine ⟨_, _, hl, h.opens.congr rfl, fun e hm => ?_, hc, .inl ⟨m, hg'⟩⟩
      rcases Parts.mem_insert hm with rfl | hm
      · exact hbody
      · exact h.parts e hm
    · have hpos : 0 < payloads.length := Nat.zero_lt_of_lt h.count
      refine ⟨_, _, hl, h.opens.congr rfl, nofun, hpos, .inr ⟨nofun, ?_⟩⟩
      exact ⟨o, _, rfl, hmade, rfl, fun _ => rfl, fun _ => rfl⟩
  · exact hj.next rfl hn h.opens h.parts hs hr

lemma Underway.finished (h' : h.Underway policy key payloads payloads.length) : h.Finished policy key payloads := by
  refine ⟨h'.opens, ?_⟩
  rcases h'.stands with ⟨m, hg⟩ | hj
  · have hle := Parts.le_count fun i (hi : i < payloads.length) => hg.numbers (i + 1) (Nat.le_add_left 1 i) hi
    exact absurd h'.count (Nat.not_lt.mpr hle)
  · obtain ⟨o, f, ho, hmade, hf, htag, hdone⟩ := hj.object
    obtain ⟨m, state, etag⟩ := f
    obtain rfl : state = .uploaded := hdone rfl
    obtain rfl : etag = _ := htag rfl
    exact ⟨o, m, _, ho, hmade, hf, ETag.unquote_strips o.etag⟩

end Holding

namespace Upload

def serveAll (policy : UploadPolicy) : List Request → Backends → List (Except UploadError Completion) × Backends
  | [], b => ([], b)
  | r :: rest, b =>
    let (result, b) := r.serve policy b
    let (results, b) := serveAll policy rest b
    (result :: results, b)

theorem serveAll_finished {policy : UploadPolicy} {path : String} (hs : Sendable key payloads) {rest : List Request}
    {n : Nat} {b : Backends} (h : (b.holding policy.keyRoot path).Underway policy key payloads n) (hn : 1 ≤ n)
    (hlength : n + rest.length = payloads.length)
    (hrest : ∀ (i : Nat) (hi : i < rest.length), rest[i].Brings path payloads (n + i)) :
    (∀ x ∈ (serveAll policy rest b).1, ∃ c, x = .ok c) ∧
      ((serveAll policy rest b).2.holding policy.keyRoot path).Finished policy key payloads := by
  induction rest generalizing n b with
  | nil =>
    obtain rfl : n = payloads.length := hlength
    exact ⟨nofun, h.finished⟩
  | cons r rest ih =>
    have hr : r.Brings path payloads n := hrest 0 (Nat.zero_lt_succ _)
    obtain ⟨c, h', ⟨b', hserve, hb'⟩, hnext⟩ := h.next hn hs hr
    have hhere : b'.holding policy.keyRoot path = h' := by
      rw [hb', hr.path]
      exact Function.update_self _ _ _
    have hlater : ∀ (i : Nat) (hi : i < rest.length), rest[i].Brings path payloads (n + 1 + i) := by
      intro i hi
      have := hrest (i + 1) (Nat.succ_lt_succ hi)
      rwa [Nat.add_assoc, Nat.add_comm 1 i]
    obtain ⟨hok, hfinished⟩ := ih (n := n + 1) (b := b') (hhere ▸ hnext) (Nat.le_add_left 1 n)
      (by rw [← hlength, List.length_cons]; omega) hlater
    rw [serveAll, hserve]
    refine ⟨fun x hx => ?_, hfinished⟩
    rcases List.mem_cons.mp hx with rfl | hx
    · exact ⟨c, rfl⟩
    · exact hok x hx

end Upload

end ResumableUpload
