import ResumableUpload.Proofs.Dialogue
import ResumableUpload.Proofs.Service.Probing
import ResumableUpload.Proofs.Service.Session
import ResumableUpload.Proofs.Store.Addressing

/-! Files do not interfere. Two runs of operations that start alike at a path, and give the same keys to its operations,
stay alike there, whatever is done for other paths. -/

namespace ResumableUpload

namespace Procedure

open Backends (respond)

variable {root path : String} {α : Type} {p : Procedure α} {b b' : Backends}

def drawn : Procedure α → Backends → List (Except String EncryptionKey)
  | .done _, _ => []
  | .ask c next, b => c.given (respond c b).1 ++ drawn (next (respond c b).1) (respond c b).2

lemma holding_run_of_ne {q : String} (hp : p.Asks (Call.At root path)) (hq : q ≠ path) (b : Backends) :
    (p.run respond b).2.holding (some root) q = b.holding (some root) q := by
  induction p generalizing b with
  | done a => rfl
  | ask c next ih => exact (ih _ (hp.2 _) _).trans (Backends.holding_respond_of_ne hp.1 hq)

theorem run_alike (hp : p.Asks (Call.At root path)) (hb : b.holding (some root) path = b'.holding (some root) path)
    {keys keys' : List (Except String EncryptionKey)} (hkeys : drawn p b ++ keys = drawn p b' ++ keys') :
    (p.run respond b).1 = (p.run respond b').1 ∧
      (p.run respond b).2.holding (some root) path = (p.run respond b').2.holding (some root) path ∧ keys = keys' := by
  induction p generalizing b b' with
  | done a => exact ⟨rfl, hb, hkeys⟩
  | ask c next ih =>
    simp only [drawn, List.append_assoc] at hkeys
    obtain ⟨⟨hanswer, h, hh, hh'⟩, hrest⟩ := Backends.alike_of_at hb hp.1 hkeys
    have hnext : (respond c b).2.holding (some root) path = (respond c b').2.holding (some root) path := by
      rw [hh, hh', Function.update_self, Function.update_self]
    simp only [Dialogue.run]
    rw [hanswer] at hrest ⊢
    exact ih _ (hp.2 _) hnext hrest

end Procedure

namespace Upload

variable {policy : UploadPolicy} {r : Request} {root : String}

lemma Stage.at_of_question {s : Stage} {c : Call} (hs : s.Fits policy r)
    (hroot : ∀ root', policy.keyRoot = some root' → root' = root) (hq : s.question r = some c) :
    c.At root r.path := by
  cases s <;> cases hq
  case deposit root' key =>
    obtain rfl := hroot root' hs.2.2
    exact ⟨rfl, rfl⟩
  case fetch root' =>
    obtain rfl := hroot root' hs.2.2
    exact ⟨rfl, rfl⟩
  case draw => trivial
  all_goals rfl

lemma Leads.asks {β : Type} {goal : β → Stage} {s : Stage} {d : Procedure (Except UploadError β)}
    (hroot : ∀ root', policy.keyRoot = some root' → root' = root) (h : Leads policy r goal s d)
    (hs : s.Fits policy r) : d.Asks (Call.At root r.path) := by
  induction h with
  | ok a => trivial
  | error e => trivial
  | ask hq _ ih => exact ⟨Stage.at_of_question hs hroot hq, fun a => ih a (Stage.fits_after hs hq a)⟩

end Upload

lemma Probe.status_asks {keyRoot : Option String} {root : String} (hroot : ∀ root', keyRoot = some root' → root' = root)
    (authorization : Option String) (path : String) : (status keyRoot authorization path).Asks (Call.At root path) := by
  have hmetadata : Dialogue.Asks (Call.At root path) (metadata authorization path).run := by
    rw [metadata_eq]
    exact ⟨rfl, fun _ => trivial⟩
  have hcontent : (content path).Asks (Call.At root path) := by
    rw [content_eq]
    exact ⟨rfl, fun _ => trivial⟩
  have hkey : (key keyRoot path).Asks (Call.At root path) := by
    cases hk : keyRoot with
    | none => trivial
    | some root' =>
      rw [hroot root' hk, key_eq]
      exact ⟨⟨rfl, rfl⟩, fun _ => trivial⟩
  refine hmetadata.bind fun result => ?_
  cases result with
  | error e => trivial
  | ok m => exact hcontent.bind fun _ => hkey.bind fun _ => trivial

namespace Operation

open Backends (respond)

variable {policy : UploadPolicy} {root path : String} {b b' : Backends}

def drawn (policy : UploadPolicy) (path : String) : List Operation → Backends → List (Except String EncryptionKey)
  | [], _ => []
  | op :: ops, b =>
    (if op.path = path then Procedure.drawn (op.procedure policy) b else []) ++
      drawn policy path ops ((op.procedure policy).run respond b).2

lemma asks (hroot : ∀ root', policy.keyRoot = some root' → root' = root) (op : Operation) :
    (op.procedure policy).Asks (Call.At root op.path) := by
  cases op with
  | upload r => exact (Upload.Leads.asks hroot Upload.procedure_leads Upload.Stage.fits_start).map _
  | status authorization path => exact (Probe.status_asks hroot authorization path).map _

theorem session_alike (hroot : ∀ root', policy.keyRoot = some root' → root' = root) (ops : List Operation)
    (hb : b.holding (some root) path = b'.holding (some root) path)
    (hkeys : drawn policy path ops b = drawn policy path (ops.filter (·.path = path)) b') :
    let whole := (session policy ops).run respond b
    let alone := (session policy (ops.filter (·.path = path))).run respond b'
    whole.1.filter (·.1.path = path) = alone.1 ∧
      whole.2.holding (some root) path = alone.2.holding (some root) path := by
  induction ops generalizing b b' with
  | nil => exact ⟨rfl, hb⟩
  | cons op ops ih =>
    have hop := asks hroot op
    by_cases hp : op.path = path
    · subst hp
      have hfilter : (op :: ops).filter (·.path = op.path) = op :: ops.filter (·.path = op.path) :=
        List.filter_cons_of_pos (by simp)
      simp only [hfilter, drawn, ↓reduceIte] at hkeys
      obtain ⟨houtcome, hholding, hrest⟩ := Procedure.run_alike hop hb hkeys
      obtain ⟨hhistory, hlast⟩ := ih hholding hrest
      simp only [hfilter, run_session_cons, houtcome]
      refine ⟨?_, hlast⟩
      rw [List.filter_cons_of_pos (by simp), hhistory]
    · -- an operation for another path draws no key for this one and leaves what is held for it
      have hfilter : (op :: ops).filter (·.path = path) = ops.filter (·.path = path) :=
        List.filter_cons_of_neg (by simpa using hp)
      have hholding := (Procedure.holding_run_of_ne hop (Ne.symm hp) b).trans hb
      simp only [hfilter, drawn, hp, ↓reduceIte, List.nil_append] at hkeys
      obtain ⟨hhistory, hlast⟩ := ih hholding hkeys
      simp only [hfilter, run_session_cons]
      refine ⟨?_, hlast⟩
      rw [List.filter_cons_of_neg (by simpa using hp), hhistory]

end Operation

namespace Rehearsal

lemma keyRoot_eq {config : Config} : ∀ root, config.policy.keyRoot = some root → root = config.vaultPath := by
  intro root hroot
  rw [Config.policy] at hroot
  split at hroot
  · exact (Option.some.inj hroot).symm
  · cases hroot

/-- The outcomes of the operations for a path, and what they leave there, are those that they have without the operations
for other paths, if they are given the same keys. -/
theorem session_isolated {config : Config} {path : String} {b b' : Backends} (ops : List Operation)
    (hb : b.holding (some config.vaultPath) path = b'.holding (some config.vaultPath) path)
    (hkeys : Operation.drawn config.policy path ops b =
      Operation.drawn config.policy path (ops.filter (·.path = path)) b') (clock : Nat) (calls : List Call) :
    ∃ whole alone m m',
      ((deployment config).session ops).finish ⟨clock, b, .none, calls⟩ = (some whole, m) ∧
      ((deployment config).session (ops.filter (·.path = path))).finish ⟨clock, b', .none, calls⟩ = (some alone, m') ∧
      whole.filter (·.1.path = path) = alone ∧
      m.world.backends.holding (some config.vaultPath) path = m'.world.backends.holding (some config.vaultPath) path := by
  obtain ⟨calls₁, hwhole⟩ := Quiet.session config ops clock b calls
  obtain ⟨calls₂, halone⟩ := Quiet.session config (ops.filter (·.path = path)) clock b' calls
  obtain ⟨hhistory, hlast⟩ := Operation.session_alike keyRoot_eq ops hb hkeys
  exact ⟨_, _, _, _, hwhole, halone, hhistory, hlast⟩

def nested : List Operation :=
  [.upload (.plain "a" 1 1 ⟨#[7]⟩), .upload (.plain "a/b" 1 1 ⟨#[8]⟩), .status none "a", .status none "a/b"]

def secondKey : EncryptionKey := ⟨List.replicate 16 7⟩

lemma drawn_nested :
    Operation.drawn lockedConfig.policy "a/b" nested (.withKeys [.ok Backends.spareKey, .ok secondKey]) =
      [.ok secondKey] ∧
    Operation.drawn lockedConfig.policy "a/b" (nested.filter (·.path = "a/b")) (.withKeys [.ok secondKey]) =
      [.ok secondKey] := by
  decide +kernel

theorem nested_isolated :
    let b := Backends.withKeys [.ok Backends.spareKey, .ok secondKey]
    let b' := Backends.withKeys [.ok secondKey]
    b.holding (some lockedConfig.vaultPath) "a/b" = b'.holding (some lockedConfig.vaultPath) "a/b" ∧
      Operation.drawn lockedConfig.policy "a/b" nested b =
        Operation.drawn lockedConfig.policy "a/b" (nested.filter (·.path = "a/b")) b' ∧
      ∃ whole alone m m', ((deployment lockedConfig).session nested).finish ⟨0, b, .none, []⟩ = (some whole, m) ∧
        ((deployment lockedConfig).session (nested.filter (·.path = "a/b"))).finish ⟨0, b', .none, []⟩ =
          (some alone, m') ∧
        whole.filter (·.1.path = "a/b") = alone := by
  intro b b'
  have hb : b.holding (some lockedConfig.vaultPath) "a/b" = b'.holding (some lockedConfig.vaultPath) "a/b" := rfl
  have hkeys := drawn_nested.1.trans drawn_nested.2.symm
  obtain ⟨whole, alone, m, m', hwhole, halone, heq, _⟩ := session_isolated nested hb hkeys 0 []
  exact ⟨hb, hkeys, whole, alone, m, m', hwhole, halone, heq⟩

end Rehearsal

end ResumableUpload
