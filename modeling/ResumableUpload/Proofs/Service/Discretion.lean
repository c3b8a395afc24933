import ResumableUpload.Proofs.Client.Reach
import ResumableUpload.Proofs.Service.Tracing

/-! The texts of failures behind the service stay there: what a caller is told of an upload does not depend on them. -/

namespace ResumableUpload

open Service (Failure Reply)
open Upload (Leads Stage)

def SecretError.muted : SecretError → SecretError
  | .notFound _ => .notFound ""
  | .network _ => .network ""
  | .provider _ => .provider ""

def StorageError.muted : StorageError → StorageError
  | .chunkTooSmall size minimum => .chunkTooSmall size minimum
  | .uploadFailed _ => .uploadFailed ""
  | .notFound _ => .notFound ""
  | .encryption _ => .encryption ""
  | .backend _ => .backend ""
  | .configuration _ => .configuration ""

def UploadError.muted : UploadError → UploadError
  | .connection _ => .connection ""
  | .unknown _ => .unknown ""
  | e => e

def Call.muted : (c : Call) → c.Answer → c.Answer
  | .storage (.put ..), a | .storage (.head _), a | .storage .check, a => Except.mapError StorageError.muted a
  | .registry (.register ..), a | .registry (.mark ..), a | .registry (.find ..), a | .registry .check, a =>
    Except.mapError UploadError.muted a
  | .secret (.write ..), a | .secret (.read ..), a | .secret .check, a => Except.mapError SecretError.muted a
  | .freshKey, a => Except.mapError (fun _ => "") a

/-- A caller cannot tell two errors apart: they are the same, or both are kept inside and presented alike. -/
inductive UploadError.Alike (e : UploadError) : UploadError → Prop
  | refl : Alike e e
  | sensitive {e' : UploadError} : e.sensitive = true → e'.presentation = e.presentation → Alike e e'

namespace UploadError

lemma alike_muted (e : UploadError) : e.muted.Alike e := by
  cases e with
  | connection _ | unknown _ => exact .sensitive rfl rfl
  | _ => exact .refl

lemma alike_ofStorage (e : StorageError) : (ofStorage e.muted).Alike (ofStorage e) := by
  cases e with
  | chunkTooSmall _ _ => exact .refl
  | _ => exact .sensitive rfl rfl

variable {e e' : UploadError} (expose : Bool)

lemma Alike.presentation_eq (h : e.Alike e') : e'.presentation = e.presentation := by
  cases h with
  | refl => rfl
  | sensitive _ hp => exact hp

lemma Alike.sensitive_eq (h : e.Alike e') : e'.sensitive = e.sensitive := by
  rw [UploadError.sensitive, UploadError.sensitive, h.presentation_eq]

lemma Alike.describe_eq (h : e.Alike e') : Service.describe e expose = Service.describe e' expose := by
  have hkept := h.sensitive_eq
  cases h with
  | refl => rfl
  | sensitive hs hp =>
    rw [hs] at hkept
    simp only [Service.describe, clientMessage, hs, hkept, Bool.true_eq_false, and_false, if_false, if_true]

lemma Alike.reply_upload (h : e.Alike e') : Failure.reply expose (.upload e) = Failure.reply expose (.upload e') := by
  rw [Failure.reply, Failure.reply, Failure.uploadReply, Failure.uploadReply, h.describe_eq, h.presentation_eq]

lemma reply_notification_of_sensitive (h : e.sensitive = true) : Failure.reply expose (.notification e) =
    .json 500 (ErrorList.single "NotificationFailed"
      s!"file stored but not marked uploaded ({Service.describe e expose}); resend the final chunk to retry").toJson := by
  rw [Failure.reply]
  -- a state conflict would be presented otherwise, but it is not sensitive
  rintro path rfl
  cases h

lemma Alike.reply_notification (h : e.Alike e') :
    Failure.reply expose (.notification e) = Failure.reply expose (.notification e') := by
  have hdescribe := h.describe_eq expose
  have hkept := h.sensitive_eq
  cases h with
  | refl => rfl
  | sensitive hs hp =>
    rw [reply_notification_of_sensitive expose hs, reply_notification_of_sensitive expose (hkept.trans hs), hdescribe]

end UploadError

namespace Dialogue

variable {Q : Type} {A : Q → Type} {α : Type}

def Ignores (f : (q : Q) → A q → A q) : Dialogue Q A α → Prop
  | .done _ => True
  | .ask q next => ∀ a, next (f q a) = next a ∧ (next a).Ignores f

end Dialogue

namespace Activity

variable {Q : Type} {A : Q → Type} {α β γ : Type} {σ σ' : Type} {R : σ' → σ → Prop}

instance : LawfulMonad (Activity σ) := by
  refine LawfulMonad.mk' _ (fun x => ?_) (fun _ _ => rfl) fun x f g => ?_
  · funext deadline m
    change Activity.bind x _ deadline m = _
    rw [Activity.bind]
    rcases x deadline m with ⟨_ | a, m'⟩ <;> rfl
  · funext deadline m
    change Activity.bind (Activity.bind x f) g deadline m = Activity.bind x _ deadline m
    rw [Activity.bind, Activity.bind, Activity.bind]
    rcases x deadline m with ⟨_ | a, m'⟩ <;> rfl

lemma within_map (limit : Nat) (f : α → β) (x : Activity σ α) : (f <$> x).within limit = Option.map f <$> x.within limit := by
  funext deadline m
  change (Activity.bind x fun a => done (f a)).within limit deadline m =
    Activity.bind (x.within limit) (fun result => done (Option.map f result)) deadline m
  -- the limit that comes first cuts off the same work on both sides
  have hcut : ∀ cut, Activity.bind x (fun a => done (f a)) (some cut) m = ((x (some cut) m).1.map f, (x (some cut) m).2) := by
    intro cut
    rw [Activity.bind]
    rcases x (some cut) m with ⟨_ | a, m'⟩ <;> rfl
  rw [Activity.bind, within.eq_def, within.eq_def]
  cases deadline with
  | none =>
    dsimp only
    rw [hcut]
    rfl
  | some outer =>
    dsimp only
    split
    · rw [hcut]
      rfl
    · rw [hcut]
      rcases x (some outer) m with ⟨_ | a, m'⟩ <;> rfl

lemma ofDialogue_map (perform : (q : Q) → Activity σ (A q)) (f : α → β) (p : Dialogue Q A α) :
    ofDialogue perform (f <$> p) = f <$> ofDialogue perform p := by
  induction p with
  | done a => rfl
  | ask q next ih =>
    change (perform q >>= fun answer => ofDialogue perform (f <$> next answer)) =
      f <$> (perform q >>= fun answer => ofDialogue perform (next answer))
    rw [map_bind]
    exact congrArg _ (funext ih)

lemma Simulates.map_act {f' : σ' → α × σ'} {f : σ → α × σ} {g : α → β}
    (h : ∀ w' w, R w' w → g (f' w').1 = g (f w).1 ∧ R (f' w').2 (f w).2) : Simulates R (g <$> .act f') (g <$> .act f) := by
  intro deadline clock w' w hw
  obtain ⟨hresult, hafter⟩ := h w' w hw
  change Alike R (some (g (f' w').1), ⟨clock, (f' w').2⟩) (some (g (f w).1), ⟨clock, (f w).2⟩)
  rw [hresult]
  exact .intro _ _ hafter

lemma Simulates.wait (duration : Nat) : Simulates R (.wait duration) (.wait duration) := by
  intro deadline clock w' w hw
  rw [Activity.wait.eq_def, Activity.wait.eq_def]
  cases deadline with
  | none => exact .intro _ _ hw
  | some limit =>
    dsimp only
    split
    · exact .intro _ _ hw
    · exact .intro _ _ hw

lemma Simulates.ofDialogue_of_ignores {perform' : (q : Q) → Activity σ' (A q)} {perform : (q : Q) → Activity σ (A q)}
    {f : (q : Q) → A q → A q} (h : ∀ q, Simulates R (f q <$> perform' q) (f q <$> perform q)) {p : Dialogue Q A α}
    (hp : p.Ignores f) : Simulates R (Activity.ofDialogue perform' p) (Activity.ofDialogue perform p) := by
  induction p with
  | done a => exact .done a
  | ask q next ih =>
    -- what follows takes an answer without its text as it takes the answer
    have hmuted : ∀ {τ : Type} (perform : (q : Q) → Activity τ (A q)), Activity.ofDialogue perform (.ask q next) =
        (f q <$> perform q) >>= fun a => Activity.ofDialogue perform (next a) := by
      intro τ perform
      rw [bind_map_left]
      simp only [(hp _).1]
      rfl
    rw [hmuted, hmuted]
    exact (h q).bind fun a => ih a (hp a).2

end Activity

namespace Upload

variable {policy : UploadPolicy} {r : Request}

lemma Leads.unique {stage : Stage} {p p' : Procedure (Except UploadError Completion)} (h : Leads policy r .returned stage p)
    (h' : Leads policy r .returned stage p') : p = p' := by
  induction h generalizing p' with
  | ok c =>
    generalize hstage : Stage.returned c = stage at h'
    cases h' with
    | ok c' =>
      cases hstage
      rfl
    | error e => cases hstage
    | ask hq _ =>
      subst hstage
      cases hq
  | error e =>
    generalize hstage : Stage.finished (.error e) = stage at h'
    cases h' with
    | ok c => cases hstage
    | error e' =>
      cases hstage
      rfl
    | ask hq _ =>
      subst hstage
      cases hq
  | @ask stage q next hq _ ih =>
    cases h' with
    | ok c => cases hq
    | error e => cases hq
    | ask hq' hnext' =>
      obtain rfl := Option.some.inj (hq.symm.trans hq')
      exact congrArg _ (funext fun a => ih a (hnext' a))

inductive Stage.Alike : Stage → Stage → Prop
  | refl {s : Stage} : Alike s s
  | error {e e' : UploadError} : e.Alike e' → Alike (finished (.error e)) (finished (.error e'))
  | unrecorded {e e' : UploadError} : e.Alike e' → Alike (returned (.unrecorded e)) (returned (.unrecorded e'))

lemma Stage.alike_after {s : Stage} {q : Call} (hq : s.question r = some q) (a : q.Answer) :
    (s.after policy r q (q.muted a)).Alike (s.after policy r q a) := by
  cases s <;> cases hq
  case probe => cases a <;> exact .refl
  case register =>
    cases a with
    | error e => exact .error e.alike_muted
    | ok u => exact .refl
  case draw root =>
    cases a with
    | error e => exact .error (.sensitive rfl rfl)
    | ok key => exact .refl
  case deposit root key =>
    cases a with
    | error e => exact .error (.sensitive rfl rfl)
    | ok u => exact .refl
  case fetch root =>
    cases a with
    | error e => exact .error (.sensitive rfl rfl)
    | ok text => exact .refl
  case put key =>
    cases a with
    | error e => exact .error (UploadError.alike_ofStorage e)
    | ok receipt => exact .refl
  case inspect =>
    cases a with
    | error e => exact .unrecorded (UploadError.alike_ofStorage e)
    | ok head => exact .refl
  case mark etag =>
    cases a with
    | error e => exact .unrecorded e.alike_muted
    | ok u => exact .refl

end Upload

namespace Deployment

variable {σ σ' α β : Type} {d : Deployment σ} {d' : Deployment σ'} {R : σ' → σ → Prop} {policy : UploadPolicy}
  {x : Upload.Request} {r : Http.Request} {stage stage' : Stage} {p p' : Procedure (Except UploadError Completion)}

lemma reply_of_alike (d : Deployment σ) (hs : stage.Alike stage') (h : Leads policy x .returned stage p)
    (h' : Leads policy x .returned stage' p') : d.uploadReply <$> p = d.uploadReply <$> p' := by
  cases hs with
  | refl => rw [h.unique h']
  | error he =>
    rw [h.unique (.error _), h'.unique (.error _)]
    exact congrArg Dialogue.done (he.reply_upload _)
  | unrecorded he =>
    rw [h.unique (.ok _), h'.unique (.ok _)]
    exact congrArg Dialogue.done (he.reply_notification _)

lemma ignores_muted (d : Deployment σ) (h : Leads policy x .returned stage p) : (d.uploadReply <$> p).Ignores Call.muted := by
  induction h with
  | ok _ | error _ => trivial
  | ask hq hnext ih => exact fun a => ⟨d.reply_of_alike (Stage.alike_after hq a) (hnext _) (hnext a), ih a⟩

lemma map_withinRequest (d : Deployment σ) (f : Except UploadError α → β) (x : Activity σ (Except UploadError α)) :
    f <$> d.withinRequest x = (f <$> x).within (milliseconds d.config.requestTimeout) >>= fun result =>
      pure (result.getD (f (.error .timeout))) := by
  rw [withinRequest, Activity.within_map, bind_map_left, map_bind]
  refine congrArg _ (funext fun result => ?_)
  cases result <;> rfl

/-- What can be heard of the calls of one deployment, and when, is what can be heard of the other, but for the texts of errors. -/
structure Rewords (d' : Deployment σ') (R : σ' → σ → Prop) (d : Deployment σ) : Prop where
  config : d'.config = d.config
  perform : ∀ q : Call, Activity.Simulates R (q.muted <$> d'.perform q) (q.muted <$> d.perform q)

namespace Rewords

variable (h : d'.Rewords R d)

include h

lemma fail : d'.fail = d.fail := fail_of_config h.config

lemma uploadReply : d'.uploadReply = d.uploadReply := uploadReply_of_config h.config

lemma withinRequest {x' : Activity σ' (Except UploadError α)} {x : Activity σ (Except UploadError α)} {f : Except UploadError α → β}
    (hx : Activity.Simulates R (f <$> x') (f <$> x)) :
    Activity.Simulates R (f <$> d'.withinRequest x') (f <$> d.withinRequest x) := by
  rw [map_withinRequest, map_withinRequest, h.config]
  exact (hx.within _).bind fun _ => .done _

lemma upload (x : Upload.Request) :
    Activity.Simulates R (d.uploadReply <$> d'.upload x.authorization x.metadata x.chunk x.payload)
      (d.uploadReply <$> d.upload x.authorization x.metadata x.chunk x.payload) := by
  rw [Deployment.upload, Deployment.upload, attempt, attempt, carryOut, carryOut, ← Activity.ofDialogue_map,
    ← Activity.ofDialogue_map, h.config]
  exact .ofDialogue_of_ignores h.perform (d.ignores_muted (x := x) Upload.procedure_leads)

lemma uploadForm (authorization : Option String) (data : Http.FormData) :
    Activity.Simulates R (d'.uploadForm authorization data) (d.uploadForm authorization data) := by
  rw [Deployment.uploadForm, Deployment.uploadForm, h.fail, h.uploadReply]
  cases FormDecoding.read data with
  | error e => exact .done _
  | ok parts => exact h.withinRequest (h.upload ⟨authorization, parts.1.metadata, parts.1.chunk, parts.2⟩)

lemma respondUpload (limit : Nat) (r : Http.Request) :
    Activity.Simulates R (d'.respondUpload limit r) (d.respondUpload limit r) := by
  rw [Deployment.respondUpload, Deployment.respondUpload, h.fail]
  cases formData limit r with
  | error e => exact .done _
  | ok data => exact h.uploadForm _ _

lemma respond (hr : r.IsUpload) : Activity.Simulates R (d'.respond r) (d.respond r) := by
  have hroute : Service.Route.ofPath? r.path = some .upload := by
    rw [hr.2]
    rfl
  rw [Deployment.respond, Deployment.respond, h.config, hroute]
  exact .ite (.done _) (.ite (.done _) ((h.respondUpload _ r).bind fun _ => .done _))

/-- The answers to an upload are the same, whichever call fails and whether or not details are exposed. -/
theorem upload_reply (hr : r.IsUpload) {w' : σ'} {w : σ} (hw : R w' w) (clock : Nat) : ∃ reply,
    ((d'.respond r).finish ⟨clock, w'⟩).1 = some reply ∧ ((d.respond r).finish ⟨clock, w⟩).1 = some reply := by
  obtain ⟨reply, hreply, -⟩ := serves_respond (d := d) (m := ⟨clock, w⟩) hr rfl
  exact ⟨reply, (h.respond hr none clock hw).fst_eq.trans hreply, hreply⟩

end Rewords

end Deployment

/-! A rehearsal is told what to fail with, and with which text. -/

def Fault.map {α : Type} (f : α → α) (x : Fault α) : Fault α := { x with answer := x.answer.map f }

def Faults.muted (f : Faults) : Faults where
  put := f.put.map (.map (Except.mapError StorageError.muted))
  head := f.head.map (.map (Except.mapError StorageError.muted))
  storageCheck := f.storageCheck.map (.map (Except.mapError StorageError.muted))
  register := f.register.map (.map (Except.mapError UploadError.muted))
  mark := f.mark.map (.map (Except.mapError UploadError.muted))
  find := f.find.map (.map (Except.mapError UploadError.muted))
  registryCheck := f.registryCheck.map (.map (Except.mapError UploadError.muted))
  write := f.write.map (.map (Except.mapError SecretError.muted))
  read := f.read.map (.map (Except.mapError SecretError.muted))
  secretCheck := f.secretCheck.map (.map (Except.mapError SecretError.muted))

def Backends.muted (b : Backends) : Backends := { b with keys := b.keys.map (Except.mapError fun _ => "") }

def Rehearsal.muted (r : Rehearsal) : Rehearsal := { r with backends := r.backends.muted, faults := r.faults.muted }

lemma Fault.headD_map {α : Type} (f : α → α) (l : List (Fault α)) :
    (l.map (Fault.map f)).headD .none = (l.headD .none).map f := by
  cases l <;> rfl

lemma Faults.next_muted (c : Call) (f : Faults) : next c f.muted = ((next c f).1.map c.muted, (next c f).2.muted) := by
  rcases c with (_ | _ | _) | (_ | _ | _ | _) | (_ | _ | _) | _
  case freshKey => rfl
  all_goals exact Prod.ext (Fault.headD_map _ _) (by simp only [next, Faults.muted, List.map_tail])

lemma Backends.respond_muted (c : Call) (b : Backends) :
    (respond c b.muted).map c.muted id = (respond c b).map c.muted muted := by
  cases c with
  | freshKey =>
    rcases b with ⟨_, _, _, _ | ⟨_ | _, _⟩⟩ <;> rfl
  | _ => rfl

namespace Rehearsal

lemma announce_muted (c : Call) (r : Rehearsal) : announce c r.muted = (announce c r).map (Fault.map c.muted) muted := by
  rw [announce, announce]
  exact congrArg (fun next => (next.1, { r.muted with faults := next.2, calls := c :: r.calls })) (Faults.next_muted c r.faults)

lemma respond_muted (c : Call) (r : Rehearsal) : (respond c r.muted).map c.muted id = (respond c r).map c.muted muted :=
  congrArg (fun after => (after.1, { r.muted with backends := after.2 })) (Backends.respond_muted c r.backends)

lemma map_perform (c : Call) : c.muted <$> perform c = Fault.map c.muted <$> Activity.act (announce c) >>= fun fault =>
    .wait fault.delay >>= fun _ =>
      match fault.answer with
      | some answer => pure answer
      | none => c.muted <$> .act (respond c) := by
  rw [perform, map_bind, bind_map_left]
  refine congrArg _ (funext fun fault => ?_)
  rw [map_bind]
  refine congrArg _ (funext fun _ => ?_)
  rcases fault with ⟨delay, _ | answer⟩ <;> rfl

variable {r r' : Rehearsal} (h : r'.muted = r.muted)

include h

lemma announce_of_muted_eq (c : Call) : (announce c r').map (Fault.map c.muted) muted = (announce c r).map (Fault.map c.muted) muted := by
  rw [← announce_muted, ← announce_muted, h]

lemma respond_of_muted_eq (c : Call) : (respond c r').map c.muted muted = (respond c r).map c.muted muted := by
  rw [← respond_muted, ← respond_muted, h]

omit h

theorem rewords (config : Config) :
    (deployment config).Rewords (fun r' r => r'.muted = r.muted) (deployment config) where
  config := rfl
  perform c := by
    change Activity.Simulates _ (c.muted <$> perform c) (c.muted <$> perform c)
    rw [map_perform]
    have hannounce : Activity.Simulates (fun r' r : Rehearsal => r'.muted = r.muted)
        (Fault.map c.muted <$> .act (announce c)) (Fault.map c.muted <$> .act (announce c)) :=
      .map_act fun _ _ h => Prod.ext_iff.mp (announce_of_muted_eq h c)
    refine hannounce.bind fun fault => (Activity.Simulates.wait _).bind fun _ => ?_
    cases fault.answer with
    | some answer => exact .done _
    | none => exact .map_act fun _ _ h => Prod.ext_iff.mp (respond_of_muted_eq h c)

def failingPut (text : String) : Rehearsal := (start [] { Faults.none with put := [⟨0, some (.error (.backend text))⟩] }).world

theorem upload_reply_of_failingPut :
    let d := deployment { encryptionDisabled := true, completionDigest := some .part }
    d.Rewords (fun r' r => r'.muted = r.muted) d ∧ UploadClient.helloRequest.IsUpload ∧
      (failingPut "bucket is gone").muted = (failingPut "disk is full").muted ∧ ∃ reply, reply.status = 500 ∧
      ((d.respond UploadClient.helloRequest).finish ⟨0, failingPut "bucket is gone"⟩).1 = some reply ∧
      ((d.respond UploadClient.helloRequest).finish ⟨0, failingPut "disk is full"⟩).1 = some reply := by
  intro d
  have hr : UploadClient.helloRequest.IsUpload := ⟨UploadClient.uploads_hello.method, UploadClient.uploads_hello.path⟩
  have hmuted : (failingPut "bucket is gone").muted = (failingPut "disk is full").muted := rfl
  have hrewords : d.Rewords (fun r' r => r'.muted = r.muted) d := rewords _
  obtain ⟨reply, hgone, hfull⟩ := hrewords.upload_reply hr hmuted 0
  have hrespond := (Deployment.respond_of_uploads (d := d) UploadClient.uploads_hello UploadClient.read_hello
    ⟨0, failingPut "disk is full"⟩).2
  have hserve : (d.serve (Deployment.described UploadClient.helloRequest (.least 5 1) UploadClient.hello)
      ⟨0, failingPut "disk is full"⟩).1 = some (.error (.ofStorage (.backend "disk is full"))) := rfl
  have hreply := (congrArg Prod.fst hrespond).symm.trans hfull
  rw [hserve] at hreply
  obtain rfl := Option.some.inj hreply
  exact ⟨hrewords, hr, hmuted, _, rfl, hgone, hfull⟩

end Rehearsal

end ResumableUpload
