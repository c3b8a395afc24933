import ResumableUpload.Proofs.Service.Probing
import ResumableUpload.Proofs.Upload.Registration

/-! The status of a file tells what the uploads before it have come to. -/

namespace ResumableUpload

open Probe (findCall headCall readCall)

namespace Backends

variable {keyRoot : Option String} (b : Backends) (path : String)

lemma content_valid_iff : (ProbeResult.ofHead (respond (headCall path) b).1).valid = true ↔
    ∃ o, (b.holding keyRoot path).object = some o ∧ 0 < o.content.size := by
  cases ho : (b.holding keyRoot path).object with
  | none =>
    rw [respond_head_of_none ho]
    simp [ProbeResult.ofHead, ProbeResult.failed]
  | some o =>
    rw [respond_head_of_some ho]
    simp only [ProbeResult.ofHead, Option.some.injEq, exists_eq_left']
    split
    · next hpos => simp [ProbeResult.found, hpos]
    · next hzero => simp [ProbeResult.failed, hzero]

lemma key_valid_iff (root : String) : (ProbeResult.ofKeyText (respond (readCall root path) b).1).valid = true ↔
    ∃ k, (b.holding (some root) path).HasKey k := by
  cases hk : (b.holding (some root) path).key with
  | none =>
    rw [respond_read_of_none hk]
    simp [ProbeResult.ofKeyText, ProbeResult.failed, Holding.HasKey, hk]
  | some text =>
    rw [respond_read hk]
    simp only [ProbeResult.ofKeyText, Holding.HasKey, hk]
    cases hd : EncryptionKey.ofHex text with
    | error e => simp [ProbeResult.failed, hd]
    | ok k => simp [ProbeResult.found, hd]

end Backends

namespace Upload

variable {config : Config} {b : Backends} {t : Traffic} {path : String}

/-- What a status tells of a path is what the uploads have left there. -/
structure Traffic.Attests (policy : UploadPolicy) (t : Traffic) (path : String) (s : Status) : Prop where
  metadata : ∃ x, (t.exchanges.filter fun x => x.path = path && x.registers) = [x] ∧
    x.request.chunk.isFirst = true ∧ s.metadata = x.request.metadata
  content : s.fileContent.valid = true ↔ ∃ o, (t.holding policy path).object = some o ∧ 0 < o.content.size
  keyed : s.encryptionKey.isSome = policy.keyRoot.isSome
  key : ∀ key, s.encryptionKey = some key → (key.valid = true ↔ ∃ k, (t.holding policy path).HasKey k)
  locked : policy.keyRoot.isSome = true → s.fileContent.valid = true →
    ∃ key, s.encryptionKey = some key ∧ key.valid = true

lemma Reachable.attests {policy : UploadPolicy} (h : Reachable policy b t)
    (hv : b.holding policy.keyRoot path = .vacant) {f : FileRecord} (hf : (t.holding policy path).record = some f) :
    t.Attests policy path (t.backends.status policy.keyRoot path f.metadata) := by
  have hc := h.course (fun _ _ => trivial : ∀ r ∈ t.requests, (fun _ => True) r)
  have hkey : ∀ key, (t.backends.status policy.keyRoot path f.metadata).encryptionKey = some key →
      (key.valid = true ↔ ∃ k, (t.holding policy path).HasKey k) := by
    intro key he
    obtain ⟨root, hroot, rfl⟩ := Option.map_eq_some_iff.mp he
    rw [Traffic.holding, hroot]
    exact t.backends.key_valid_iff path root
  have hcontent : (t.backends.status policy.keyRoot path f.metadata).fileContent.valid = true ↔
      ∃ o, (t.holding policy path).object = some o ∧ 0 < o.content.size := t.backends.content_valid_iff path
  refine ⟨hc.registration hv hf, hcontent, Option.isSome_map, hkey, fun hroot hvalid => ?_⟩
  obtain ⟨root, hroot⟩ := Option.isSome_iff_exists.mp hroot
  obtain ⟨o, ho, _⟩ := hcontent.mp hvalid
  have he : (t.backends.status policy.keyRoot path f.metadata).encryptionKey = some _ :=
    Option.map_eq_some_iff.mpr ⟨root, hroot, rfl⟩
  exact ⟨_, he, (hkey _ he).mpr (hc.hasKey_of_object hroot hv ho)⟩

/-- Whoever asks for the status of the path, and however slow the backends are, the result is the same, except that an
answer in place of a probe shows in the field of that probe. Nothing is changed. -/
def Traffic.Answers (config : Config) (t : Traffic) (path : String) (result : Except UploadError Status) : Prop :=
  ∀ (authorization : Option String) (clock : Nat) (faults : Faults) (calls : List Call),
    (faults.find.headD .none).answer = none → ∃ clock' faults' calls',
      ((Rehearsal.deployment config).status authorization path).finish ⟨clock, t.backends, faults, calls⟩ =
        (some (result.map fun s => s.degraded (faults.head.headD .none).answer (faults.read.headD .none).answer),
          ⟨clock', t.backends, faults', calls'⟩)

lemma Traffic.answers_of_some {f : FileRecord} (hf : (t.holding config.policy path).record = some f) :
    t.Answers config path (.ok (t.backends.status config.policy.keyRoot path f.metadata)) := by
  intro authorization clock faults calls hfind
  have hfound : Rehearsal.told ⟨t.backends, faults, calls⟩ (findCall authorization path) = .ok f.metadata :=
    Rehearsal.told_find_of_some authorization hfind hf
  obtain ⟨⟨backends, faults', calls'⟩, rfl, htakes⟩ := Rehearsal.takes_status config clock hfound
  exact ⟨_, faults', calls', htakes.inTime none nofun⟩

lemma Traffic.answers_of_none (hn : (t.holding config.policy path).record = none) :
    t.Answers config path (.error (.notRegistered path)) := by
  intro authorization clock faults calls hfind
  have hmissing : Rehearsal.told ⟨t.backends, faults, calls⟩ (findCall authorization path) =
      .error (.fileNotFound path) := Rehearsal.told_find_of_none authorization hfind hn
  exact ⟨_, _, _, (Rehearsal.takes_status_of_error config clock hmissing).inTime none nofun⟩

theorem Reachable.attested (h : Reachable config.policy b t) (hv : b.holding config.policy.keyRoot path = .vacant) :
    ∃ result, t.Answers config path result ∧
      (result = .error (.notRegistered path) ↔ (t.holding config.policy path).record = none) ∧
      ((t.holding config.policy path).record.isSome = true →
        ∃ s, result = .ok s ∧ t.Attests config.policy path s) := by
  cases hr : (t.holding config.policy path).record with
  | none => exact ⟨_, Traffic.answers_of_none hr, by simp, nofun⟩
  | some f => exact ⟨_, Traffic.answers_of_some hr, by simp, fun _ => ⟨_, rfl, h.attests hv hr⟩⟩

theorem overtaken_attested : ∃ t, Reachable lockedConfig.policy (.withKeys []) t ∧
    t.requests = [.least 1 2, .latter, .latter] ∧ (t.holding lockedConfig.policy "a").parts.numbers = [2] ∧
      ∃ s m, ((Rehearsal.deployment lockedConfig).status none "a").finish ⟨0, t.backends, .none, []⟩ =
          (some (.ok s), m) ∧ t.Attests lockedConfig.policy "a" s := by
  obtain ⟨t, hs, hf, hparts, -, huploaded⟩ := Request.exists_overtaken lockedConfig.policy
  obtain ⟨f, hrecord, -⟩ := Holding.uploaded_iff.mp huploaded
  have hvacant : (Backends.withKeys []).holding lockedConfig.policy.keyRoot "a" = .vacant := rfl
  obtain ⟨result, hanswers, _, hattests⟩ := hs.reachable.attested hvacant
  obtain ⟨s, rfl, hattested⟩ := hattests (by rw [hrecord]; rfl)
  obtain ⟨clock, faults, calls, hstatus⟩ := hanswers none 0 .none [] rfl
  refine ⟨t, hs.reachable, ?_, hparts, s, ⟨clock, t.backends, faults, calls⟩, ?_, hattested⟩
  · rw [Traffic.requests, hf]
    rfl
  · rw [hstatus]
    exact congrArg (fun s => (some (Except.ok s), _)) s.degraded_none

end Upload

end ResumableUpload
