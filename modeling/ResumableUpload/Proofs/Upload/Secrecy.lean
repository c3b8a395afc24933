import ResumableUpload.Proofs.Upload.Custody
import ResumableUpload.Proofs.Upload.Law
import ResumableUpload.Proofs.Upload.Overtaking

/-! What is stored of an encrypted file is encrypted under the key that is kept for it. The key is written once,
before the first byte of the file is stored, and stays. -/

namespace ResumableUpload

namespace Upload

variable {policy : UploadPolicy} {forced : Prop} {adm : Request → Prop} {b : Backends} {t t' : Traffic}
  {path root : String}

namespace Traffic

def keyEntry (t : Traffic) (root path : String) : Option String :=
  t.backends.secrets.get? (Keys.secretPath root path) Keys.entryName

def readKey (t : Traffic) (root path : String) : Except UploadError EncryptionKey :=
  (Dialogue.run Backends.respond (Keys.read root path).run t.backends).1

def Enciphered (t : Traffic) (root path : String) (e : Nat × Bytes) : Prop :=
  ∃ k r, t.readKey root path = .ok k ∧ r ∈ t.requests ∧ r.path = path ∧ r.chunk.current = e.1 ∧
    Cipher.encryptPart k e.1 r.payload = .ok e.2

lemma holding_key (hk : policy.keyRoot = some root) (t : Traffic) (path : String) :
    (t.holding policy path).key = t.keyEntry root path := by
  simp [holding, Backends.holding, hk, keyEntry]

lemma readKey_eq : t.readKey root path =
    match t.keyEntry root path with
    | some text => EncryptionKey.ofHex text
    | none => .error (.secretRead (SecretError.notFound s!"{Keys.secretPath root path}#{Keys.entryName}").message) := by
  have hread : t.backends.secrets.read (Keys.secretPath root path) Keys.entryName =
      match t.keyEntry root path with
      | some text => .ok text
      | none => .error (.notFound s!"{Keys.secretPath root path}#{Keys.entryName}") := rfl
  cases h : t.keyEntry root path <;>
    simp [readKey, Keys.read, Procedure.secret, Dialogue.query, bind, ExceptT.bind, ExceptT.bindCont, ExceptT.mk,
      ExceptT.run, Dialogue.bind, Dialogue.run, Backends.respond, SecretStore.respond, hread, h, liftM, monadLift,
      MonadLift.monadLift, ExceptT.lift, Functor.map]
  rfl

lemma readKey_of_hasKey (hk : policy.keyRoot = some root) {k : EncryptionKey}
    (h : (t.holding policy path).HasKey k) : t.readKey root path = .ok k := by
  obtain ⟨text, ht, hkey⟩ := h
  rw [holding_key hk] at ht
  rw [readKey_eq, ht]
  exact hkey

namespace Turns

variable {i : Nat} {f f' : Flight} {q : Call} {a : q.Answer}

lemma key_none (ht : t.Turns policy forced i f f' q a t') (hp : f.path = path)
    (hv : b.holding policy.keyRoot path = .vacant) (h : Course policy forced adm b t)
    (hx : Exchange.storesKey ⟨f.request, q, a⟩ = true) : (t.holding policy path).key = none := by
  have hle := Course.storesKey_le (.tail h (.turn ht)) hv
  have hzero := ht.count_eq_zero hp hx (by omega)
  have hkey := h.key_le hv
  rw [hzero] at hkey
  simpa using hkey

lemma key_kept (ht : t.Turns policy forced i f f' q a t') (hp : f.path = path)
    (hv : b.holding policy.keyRoot path = .vacant) (h : Course policy forced adm b t) {text : String}
    (hk : (t.holding policy path).key = some text) : (t'.holding policy path).key = some text := by
  obtain ⟨s, hs⟩ := ht.stands h.staged
  obtain ⟨s', _, hturn⟩ := ht.stage s hs
  have key_none := ht.key_none hp hv h
  rw [hp] at hturn
  generalize t'.holding policy path = h' at hturn ⊢
  cases hturn with
  | deposited =>
    rw [key_none rfl] at hk
    cases hk
  | _ => exact hk

end Turns

end Traffic

def Exchange.storedUnder : Exchange → Option (Option EncryptionKey)
  | ⟨_, .storage (.put _ _ _ key), .ok _⟩ => some key
  | _ => none

lemma Exchange.storedUnder_of_failure {r : Request} {q : Call} {a : q.Answer} (h : q.IsFailure a) :
    storedUnder ⟨r, q, a⟩ = none := by
  cases q with
  | storage c => cases c <;> obtain ⟨e, rfl⟩ := h <;> rfl
  | registry c => rfl
  | secret c => rfl
  | freshKey => rfl

def Law.locking : Law where
  holding _ := True
  stage _ s h := ∀ key, s = .put key → ∃ k, key = some k ∧ h.HasKey k
  exchange x h := ∀ key, x.storedUnder = some key → ∃ k, key = some k ∧ h.HasKey k

lemma Law.locking_of_opening (hk : policy.keyRoot = some root) {r : Request} {s : Stage} {h : Holding}
    (hs : s.Opening policy) : Law.locking.stage r s h := by
  rintro key rfl
  cases key with
  | none => cases hs.symm.trans hk
  | some k => exact hs.elim

lemma Law.locking_kept (hk : policy.keyRoot = some root) (hv : b.holding policy.keyRoot path = .vacant) :
    Law.locking.Kept policy forced adm b path := by
  refine ⟨trivial, fun r h _ _ _ => Law.locking_of_opening hk Stage.opening_start, ?_⟩
  intro t t' i f f' q a s s' hc ht hp _ _ hs hturn
  have same : ∀ {h h' : Holding}, h'.key = h.key → Law.locking.Respects h h' := by
    intro h h' he
    refine ⟨fun r s hs key hm => ?_, fun x hx key hm => ?_⟩
    · obtain ⟨k, hkey, text, ht, hd⟩ := hs key hm
      exact ⟨k, hkey, text, he.trans ht, hd⟩
    · obtain ⟨k, hkey, text, ht, hd⟩ := hx key hm
      exact ⟨k, hkey, text, he.trans ht, hd⟩
  have key_none := ht.key_none hp hv hc
  generalize t'.holding policy path = h' at hturn ⊢
  cases hturn with
  | missing _ => exact ⟨trivial, Law.locking_of_opening hk Stage.opening_entry, nofun, same rfl⟩
  | registered _ => exact ⟨trivial, Law.locking_of_opening hk Stage.opening_keyed, nofun, same rfl⟩
  | @deposited _ _ k =>
    -- no other upload can hold a key yet, and nothing can be stored under one
    have hn := key_none rfl
    refine ⟨trivial, fun key he => ?_, nofun, fun r s hs key hm => ?_, fun x hx key hm => ?_⟩
    · cases he
      exact ⟨k, rfl, _, rfl, k.ofHex_toHex⟩
    · obtain ⟨k, _, text, ht, _⟩ := hs key hm
      cases hn.symm.trans ht
    · obtain ⟨k, _, text, ht, _⟩ := hx key hm
      cases hn.symm.trans ht
  | fetched htext hd =>
    refine ⟨trivial, fun key he => ?_, nofun, same rfl⟩
    cases he
    exact ⟨_, rfl, _, htext, hd⟩
  | stored _ _ =>
    refine ⟨trivial, nofun, fun key he => ?_, same rfl⟩
    cases he
    exact hs _ rfl
  | assembled _ _ _ _ =>
    refine ⟨trivial, ?_, fun key he => ?_, same rfl⟩
    · exact Stage.assembled_of (P := (Law.locking.stage _ · _)) (fun _ => nofun) fun _ => nofun
    · cases he
      exact hs _ rfl
  | refused _ ha _ =>
    refine ⟨trivial, nofun, fun key he => ?_, same rfl⟩
    cases (Exchange.storedUnder_of_failure ha).symm.trans he
  | _ => exact ⟨trivial, nofun, nofun, same rfl⟩

lemma Traffic.Supplies.enciphered (hk : policy.keyRoot = some root) (hl : Law.locking.Holds policy path t)
    {e : Nat × Bytes} (h : t.Supplies path e) : t.Enciphered root path e := by
  obtain ⟨r, hp, hn, hr, _, key, receipt, hx, hb⟩ := h
  obtain ⟨k, rfl, hkey⟩ := hl.exchanges _ hx hp key rfl
  refine ⟨k, r, t.readKey_of_hasKey hk hkey, hr, hp, hn, ?_⟩
  rw [← hn]
  exact hb

/-- The path has a key of its own that stays, and everything stored for it is encrypted under that key. -/
structure Traffic.Locked (policy : UploadPolicy) (root : String) (t : Traffic) (path : String) : Prop where
  lasting : ∀ text, t.keyEntry root path = some text → ∀ t', Relation.ReflTransGen (Step policy) t t' →
    t'.keyEntry root path = some text
  apart : ∀ q, q ≠ path → Keys.secretPath root q ≠ Keys.secretPath root path
  pending : ∀ e ∈ (t.holding policy path).parts.entries, t.Enciphered root path e
  object : ∀ o, (t.holding policy path).object = some o → ∃ parts : Parts, parts.entries ≠ [] ∧
    o.content = Bytes.concat parts.bodies ∧ ∀ e ∈ parts.entries, t.Enciphered root path e
  first : (t.holding policy path).parts.entries ≠ [] ∨ (t.holding policy path).object.isSome →
    (t.keyEntry root path).isSome

lemma Traffic.Enciphered.entry {e : Nat × Bytes} (h : t.Enciphered root path e) : (t.keyEntry root path).isSome := by
  obtain ⟨k, _, hread, _⟩ := h
  rw [Traffic.readKey_eq] at hread
  cases hkey : t.keyEntry root path with
  | some text => rfl
  | none =>
    rw [hkey] at hread
    cases hread

theorem Reachable.locked (hk : policy.keyRoot = some root) (hv : b.holding policy.keyRoot path = .vacant)
    (h : Reachable policy b t) : t.Locked policy root path := by
  have hc := h.course (fun _ _ => trivial : ∀ r ∈ t.requests, (fun _ => True) r)
  have hl := (Law.locking_kept hk hv).holds hc
  have hf := hc.filled hv
  have hpending : ∀ e ∈ (t.holding policy path).parts.entries, t.Enciphered root path e :=
    fun e he => (hf.parts e he).enciphered hk hl
  have hobject : ∀ o, (t.holding policy path).object = some o → ∃ parts : Parts, parts.entries ≠ [] ∧
      o.content = Bytes.concat parts.bodies ∧ ∀ e ∈ parts.entries, t.Enciphered root path e := by
    intro o ho
    obtain ⟨parts, last, hj⟩ := hf.object o ho
    obtain ⟨body, hm⟩ := Parts.mem_numbers.mp hj.member
    refine ⟨parts, List.ne_nil_of_mem hm, ?_, fun e he => (hj.supplied e he).enciphered hk hl⟩
    rw [hj.eq]
    exact parts.assembled_eq
  refine ⟨?_, fun q hq he => hq (Keys.secretPath_inj.mp he), hpending, hobject, ?_⟩
  · intro text ht t' hs
    rw [← Traffic.holding_key hk] at ht ⊢
    exact h.kept (fun hc hturn hp => hturn.key_kept hp hv hc) hs (fun _ _ => trivial : ∀ r ∈ _, (fun _ => True) r) ht
  · rintro (hne | ho)
    · obtain ⟨e, he⟩ := List.exists_mem_of_ne_nil _ hne
      exact (hpending e he).entry
    · obtain ⟨o, ho⟩ := Option.isSome_iff_exists.mp ho
      obtain ⟨parts, hne, _, hall⟩ := hobject o ho
      obtain ⟨e, he⟩ := List.exists_mem_of_ne_nil _ hne
      exact (hall e he).entry

theorem overtaken_locked : ∃ t, Reachable ⟨some "keys", .part⟩ (.withKeys []) t ∧
    t.requests = [.least 1 2, .latter, .latter] ∧ (t.holding ⟨some "keys", .part⟩ "a").object.isSome = true ∧
    (t.holding ⟨some "keys", .part⟩ "a").parts.numbers = [2] ∧ t.Locked ⟨some "keys", .part⟩ "keys" "a" := by
  obtain ⟨t, hs, hf, hparts, hobject, -⟩ := Request.exists_overtaken ⟨some "keys", .part⟩
  refine ⟨t, hs.reachable, ?_, hobject, hparts, hs.reachable.locked rfl rfl⟩
  rw [Traffic.requests, hf]
  rfl

end Upload

end ResumableUpload
