import ResumableUpload.Proofs.Service.Duration
import ResumableUpload.Proofs.Upload.Secrecy

/-! What the status of a file takes, and what comes of it when its probes are slow or are answered in place of their
backends. -/

namespace ResumableUpload

namespace ProbeResult

def ofHead : Except StorageError ObjectHead → ProbeResult
  | .ok head => if 0 < head.length then found else failed "stored object is empty"
  | .error e => failed e.message

def ofKeyText : Except SecretError String → ProbeResult
  | .ok text =>
    match EncryptionKey.ofHex text with
    | .ok _ => found
    | .error e => failed e.message
  | .error e => failed (UploadError.secretRead e.message).message

end ProbeResult

namespace Probe

variable (authorization : Option String) (root path : String)

abbrev findCall : Call := .registry (.find authorization path)

abbrev headCall : Call := .storage (.head path)

abbrev readCall : Call := .secret (.read (Keys.secretPath root path) Keys.entryName)

lemma metadata_eq : (metadata authorization path).run =
    .ask (findCall authorization path) fun answer => .done (answer.mapError fun _ => .notRegistered path) := by
  change Dialogue.ask _ _ = _
  congr 1
  funext answer
  cases answer <;> rfl

lemma content_eq : content path = .ask (headCall path) fun answer => .done (.ofHead answer) := by
  change Dialogue.ask _ _ = _
  congr 1
  funext answer
  cases answer <;> rfl

lemma key_eq : key (some root) path = .ask (readCall root path) fun answer => .done (some (.ofKeyText answer)) := by
  change Dialogue.ask _ _ = _
  congr 1
  funext answer
  cases answer with
  | error e => rfl
  | ok text =>
    change Dialogue.bind (Dialogue.done _) _ = _
    simp only [ProbeResult.ofKeyText]
    cases EncryptionKey.ofHex text <;> rfl

end Probe

open Probe (findCall headCall readCall)

def Backends.status (keyRoot : Option String) (b : Backends) (path : String) (m : FileMetadata) : Status where
  metadata := m
  fileContent := .ofHead (respond (headCall path) b).1
  encryptionKey := keyRoot.map fun root => .ofKeyText (respond (readCall root path) b).1

namespace Status

def degraded (s : Status) (head : Option (Except StorageError ObjectHead)) (read : Option (Except SecretError String)) :
    Status where
  metadata := s.metadata
  fileContent := head.elim s.fileContent .ofHead
  encryptionKey := s.encryptionKey.map fun key => read.elim key .ofKeyText

lemma degraded_none (s : Status) : s.degraded none none = s := by
  simp [degraded]

end Status

namespace Rehearsal

variable {config : Config} {authorization : Option String} {path : String} {w : Rehearsal} {clock : Nat}
  {m : FileMetadata}

def status (keyRoot : Option String) (w : Rehearsal) (path : String) (m : FileMetadata) : Status :=
  (w.backends.status keyRoot path m).degraded (w.faults.head.headD .none).answer (w.faults.read.headD .none).answer

def probing (keyRoot : Option String) (w : Rehearsal) : Nat :=
  max (w.faults.head.headD .none).delay (keyRoot.elim 0 fun _ => (w.faults.read.headD .none).delay)

lemma takes_find : ((deployment config).attempt (Probe.metadata authorization path)).Takes ⟨clock, w⟩
    (w.delay (findCall authorization path))
    ((w.told (findCall authorization path)).mapError fun _ => .notRegistered path)
    (w.after (findCall authorization path)) := by
  rw [Deployment.attempt, Probe.metadata_eq]
  exact takes_ask rfl _

lemma status_eq (keyRoot : Option String) : w.status keyRoot path m =
    ⟨m, .ofHead (w.told (headCall path)), keyRoot.map fun root => .ofKeyText (w.told (readCall root path))⟩ := by
  rw [apply_told (c := headCall path) ProbeResult.ofHead]
  cases keyRoot with
  | none => rfl
  | some root =>
    rw [Option.map_some, apply_told (c := readCall root path) ProbeResult.ofKeyText]
    rfl

lemma takes_content : ((deployment config).carryOut (Probe.content path)).Takes ⟨clock, w⟩ (w.delay (headCall path))
    (.ofHead (w.told (headCall path))) (w.after (headCall path)) := by
  rw [Probe.content_eq]
  exact takes_ask rfl _

lemma takes_key (keyRoot : Option String) : ((deployment config).carryOut (Probe.key keyRoot path)).Takes ⟨clock, w⟩
    (keyRoot.elim 0 fun root => w.delay (readCall root path))
    (keyRoot.map fun root => .ofKeyText (w.told (readCall root path)))
    (keyRoot.elim w fun root => w.after (readCall root path)) := by
  cases keyRoot with
  | none => exact .done none _
  | some root =>
    rw [Probe.key_eq]
    exact takes_ask rfl _

lemma takes_probes (keyRoot : Option String) : ∃ w', w'.backends = w.backends ∧
    (Activity.both ((deployment config).carryOut (Probe.content path))
      ((deployment config).carryOut (Probe.key keyRoot path))).Takes ⟨clock, w⟩ (w.probing keyRoot)
        (.ofHead (w.told (headCall path)), keyRoot.map fun root => .ofKeyText (w.told (readCall root path))) w' := by
  refine ⟨_, ?_, takes_content.both (takes_key keyRoot)⟩
  cases keyRoot <;> rfl

theorem takes_status (config : Config) (clock : Nat) (hm : w.told (findCall authorization path) = .ok m) :
    ∃ w', w'.backends = w.backends ∧ ((deployment config).status authorization path).Takes ⟨clock, w⟩
      ((w.faults.find.headD .none).delay + w.probing config.policy.keyRoot)
      (.ok (w.status config.policy.keyRoot path m)) w' := by
  have hfind : ((deployment config).attempt (Probe.metadata authorization path)).Takes ⟨clock, w⟩ _ _ _ := takes_find
  rw [hm] at hfind
  obtain ⟨w', hw, hprobes⟩ : ∃ w', _ ∧
      (Activity.both _ _).Takes ⟨clock + _, w.after (findCall authorization path)⟩ _ _ w' :=
    takes_probes config.policy.keyRoot
  refine ⟨w', hw, hfind.bind ?_⟩
  rw [status_eq]
  exact hprobes.map _

lemma takes_status_of_error (config : Config) (clock : Nat) {e : UploadError}
    (he : w.told (findCall authorization path) = .error e) :
    ((deployment config).status authorization path).Takes ⟨clock, w⟩ (w.delay (findCall authorization path))
      (.error (.notRegistered path)) (w.after (findCall authorization path)) := by
  have hfind : ((deployment config).attempt (Probe.metadata authorization path)).Takes ⟨clock, w⟩ _ _ _ := takes_find
  rw [he] at hfind
  rw [← Nat.add_zero (w.delay _)]
  apply hfind.bind
  exact .done _ _

end Rehearsal

structure Http.Request.AsksStatus (r : Http.Request) (limit : Nat) (path : String) : Prop where
  method : r.method = "GET"
  path : ∃ sent, Service.Route.ofPath? r.path = some (.status sent) ∧ Service.Route.decodePath? sent = some path
  length : r.contentLength?.getD limit ≤ limit

lemma Text.Percent.decode_of_notMem {l : List UInt8} (h : 0x25 ∉ l) : decode l = l := by
  induction l with
  | nil => simp [decode]
  | cons b rest ih =>
    rw [List.mem_cons, not_or] at h
    rw [decode]
    · rw [ih h.2]
    · intro high low rest' hb
      exact absurd hb.symm h.1

lemma Service.Route.decodePath?_of_notMem {path : String} (h : 0x25 ∉ Text.Utf8.encode path) :
    decodePath? path = some path := by
  rw [decodePath?, Text.Percent.decode_of_notMem h]
  exact Text.Utf8.decode?_encode path

namespace Deployment

variable {σ : Type} (d : Deployment σ)

def statusReply : Except UploadError Status → Service.Reply
  | .error e => d.fail (.upload e)
  | .ok s => .json 200 s.toJson

variable {d} {r : Http.Request} {path : String} {m : Moment σ} {result : Option (Except UploadError Status)}

lemma respond_of_asksStatus (hr : r.AsksStatus d.config.maxChunkBytes.toNat path)
    (hs : (d.status (r.textHeader? "authorization") path
      (some (m.clock + milliseconds d.config.requestTimeout)) m).1 = result) :
    ((d.respond r).finish m).1 = some (d.statusReply (result.getD (.error .timeout))) := by
  obtain ⟨sent, hroute, hdecode⟩ := hr.path
  have hshort : ¬ d.config.maxChunkBytes.toNat < d.announced r := Nat.not_lt.mpr hr.length
  have hget : r.method ∈ Service.Route.methods (.status sent) := by
    rw [hr.method]
    exact List.mem_cons_self
  rw [respond_of_route hroute hget (by rw [hr.method]; decide), if_neg hshort]
  simp only [respondRoute, hdecode, respondStatus]
  rw [Activity.bind_of (withinRequest_eq _ m), hs]
  cases result with
  | none => rfl
  | some result => cases result <;> rfl

end Deployment

def lockedConfig : Config := { vaultPath := "keys" }

namespace Rehearsal

variable {config : Config} {path : String} {w : Rehearsal} {clock : Nat} {r : Http.Request} {record : FileRecord}

lemma told_find (authorization : Option String) (hfind : (w.faults.find.headD .none).answer = none) :
    w.told (findCall authorization path) = w.backends.registry.find path := by
  have hnext : (Faults.next (findCall authorization path) w.faults).1.answer = none := hfind
  rw [told, hnext]
  rfl

lemma told_find_of_some (authorization : Option String) (hfind : (w.faults.find.headD .none).answer = none)
    (hrecord : w.backends.registry.records.get? path = some record) :
    w.told (findCall authorization path) = .ok record.metadata := by
  rw [told_find authorization hfind, FileRegistry.find, hrecord]

lemma told_find_of_none (authorization : Option String) (hfind : (w.faults.find.headD .none).answer = none)
    (hrecord : w.backends.registry.records.get? path = none) :
    w.told (findCall authorization path) = .error (.fileNotFound path) := by
  rw [told_find authorization hfind, FileRegistry.find, hrecord]

section

variable (hr : r.AsksStatus config.maxChunkBytes.toNat path)
  (hrecord : w.backends.registry.records.get? path = some record) (hfind : (w.faults.find.headD .none).answer = none)
include hr hrecord hfind

lemma respond_of_found (clock : Nat) : (((deployment config).respond r).finish ⟨clock, w⟩).1 =
    some ((deployment config).statusReply (Option.getD
      (if (w.faults.find.headD .none).delay + w.probing config.policy.keyRoot ≤
          Deployment.milliseconds config.requestTimeout then
        some (.ok (w.status config.policy.keyRoot path record.metadata)) else none) (.error .timeout))) := by
  obtain ⟨w', _, htakes⟩ : ∃ w', _ ∧ ((deployment config).status _ path).Takes ⟨clock, w⟩ _ _ w' :=
    takes_status config clock (told_find_of_some _ hfind hrecord)
  apply Deployment.respond_of_asksStatus hr
  exact htakes.limited _

lemma respond_of_late (clock : Nat) (hlate : Deployment.milliseconds config.requestTimeout <
    (w.faults.find.headD .none).delay + w.probing config.policy.keyRoot) :
    (((deployment config).respond r).finish ⟨clock, w⟩).1 = some ((deployment config).fail (.upload .timeout)) := by
  rw [respond_of_found hr hrecord hfind, if_neg (Nat.not_le.mpr hlate)]
  rfl

/-- The probes have the time of the request between them. Within it, an outage shows in the field of its own probe;
past it, there is no status at all. -/
theorem respond_status (clock : Nat) : (((deployment config).respond r).finish ⟨clock, w⟩).1 = some (
    if (w.faults.find.headD .none).delay + w.probing config.policy.keyRoot ≤
        Deployment.milliseconds config.requestTimeout then
      .json 200 (w.status config.policy.keyRoot path record.metadata).toJson
    else (deployment config).fail (.upload .timeout)) := by
  split
  · next hin =>
    rw [respond_of_found hr hrecord hfind, if_pos hin]
    rfl
  · next hlate => exact respond_of_late hr hrecord hfind clock (Nat.not_le.mp hlate)

end

def statusRequest : Http.Request := ⟨"GET", "/status/a", [], ByteArray.empty⟩

lemma asks_statusRequest (config : Config) : statusRequest.AsksStatus config.maxChunkBytes.toNat "a" :=
  ⟨rfl, ⟨"a", rfl, Service.Route.decodePath?_of_notMem (by decide)⟩, Nat.le_refl _⟩

def sentLocked : Upload.Traffic := .played ⟨some "keys", .part⟩ [.plain "a" 1 1 ⟨#[7]⟩] [0, 0, 0, 0]

def afflicted (fault : Fault (Except StorageError ObjectHead)) : Rehearsal :=
  ⟨sentLocked.backends, { Faults.none with head := [fault] }, []⟩

def lockedRecord : FileRecord := ⟨(Upload.Request.plain "a" 1 1 ⟨#[7]⟩).metadata, .created, none⟩

lemma get?_afflicted (fault : Fault (Except StorageError ObjectHead)) :
    (afflicted fault).backends.registry.records.get? "a" = some lockedRecord := rfl

theorem respond_status_lost :
    let lost : Fault (Except StorageError ObjectHead) := ⟨60000, some (.error (.backend "lost"))⟩
    statusRequest.AsksStatus lockedConfig.maxChunkBytes.toNat "a" ∧
      (((deployment lockedConfig).respond statusRequest).finish ⟨0, afflicted lost⟩).1 = some (.json 200
        (Status.toJson ⟨lockedRecord.metadata, .failed (StorageError.backend "lost").message, some .found⟩)) := by
  intro lost
  have hasks := asks_statusRequest lockedConfig
  have hreply := respond_status hasks (get?_afflicted lost) rfl 0
  rw [if_pos (by decide)] at hreply
  exact ⟨hasks, hreply⟩

/-- While the probe of the content hangs, nothing is told of the metadata and the key. -/
theorem hanging_probe_hides_status : ¬ ∀ (config : Config) (r : Http.Request) (path : String) (w : Rehearsal)
    (record : FileRecord) (fault : Fault (Except StorageError ObjectHead)),
    r.AsksStatus config.maxChunkBytes.toNat path → w.backends.registry.records.get? path = some record →
    w.faults = { Faults.none with head := [fault] } → ∃ content,
      (((deployment config).respond r).finish ⟨0, w⟩).1 = some (.json 200 (Status.toJson
        { w.backends.status config.policy.keyRoot path record.metadata with fileContent := content })) := by
  intro h
  obtain ⟨content, hreply⟩ := h lockedConfig statusRequest "a" (afflicted ⟨61000, none⟩) lockedRecord _
    (asks_statusRequest _) (get?_afflicted _) rfl
  have hlate := respond_of_late (asks_statusRequest lockedConfig) (get?_afflicted ⟨61000, none⟩) rfl 0 (by decide)
  have hstatus : 200 = 504 := congrArg Service.Reply.status (Option.some.inj (hreply.symm.trans hlate))
  omega

end Rehearsal

end ResumableUpload
