import ResumableUpload.Proofs.Http.Multipart
import ResumableUpload.Proofs.Upload.Alone
import ResumableUpload.Rehearsal

/-! What a service answers to a chunk, by how its upload ends; in memory, while nothing fails and nothing else is under way,
the upload runs as if it were alone. -/

namespace ResumableUpload

def Faults.none : Faults := ⟨[], [], [], [], [], [], [], [], [], []⟩

namespace Activity

variable {σ α β : Type} {x : Activity σ α} {deadline : Option Nat} {m m' : Moment σ} {a : α}

lemma bind_of (h : x deadline m = (some a, m')) (f : α → Activity σ β) : (x >>= f) deadline m = f a deadline m' := by
  change Activity.bind x f deadline m = _
  rw [Activity.bind, h]

lemma within_of {limit : Nat} {result : Option α} (h : x (some (m.clock + limit)) m = (result, m')) :
    x.within limit none m = (some result, m') := by
  rw [within, h]

end Activity

namespace Rehearsal

variable {α : Type} {m : Moment Rehearsal} {deadline : Option Nat}

lemma next_none (c : Call) : Faults.next c .none = (.none, .none) := by
  cases c with
  | storage c => cases c <;> rfl
  | registry c => cases c <;> rfl
  | secret c => cases c <;> rfl
  | freshKey => rfl

lemma perform_quiet (hf : m.world.faults = .none) (hd : ∀ limit ∈ deadline, m.clock ≤ limit) (c : Call) :
    perform c deadline m = (some (Backends.respond c m.world.backends).1,
      ⟨m.clock, (Backends.respond c m.world.backends).2, .none, c :: m.world.calls⟩) := by
  obtain ⟨clock, backends, faults, calls⟩ := m
  obtain rfl : faults = .none := hf
  cases deadline with
  | none => simp [perform, bind, Activity.bind, Activity.act, Activity.wait, announce, next_none, Fault.none, respond]
  | some limit =>
    have hle : clock ≤ limit := hd limit rfl
    simp [perform, bind, Activity.bind, Activity.act, Activity.wait, announce, next_none, Fault.none, respond, hle]

theorem ofDialogue_quiet (d : Procedure α) (deadline : Option Nat) (hf : m.world.faults = .none)
    (hd : ∀ limit ∈ deadline, m.clock ≤ limit) :
    ∃ calls, Activity.ofDialogue perform d deadline m = (some (d.run Backends.respond m.world.backends).1,
      ⟨m.clock, (d.run Backends.respond m.world.backends).2, .none, calls⟩) := by
  induction d generalizing m with
  | done a =>
    obtain ⟨clock, backends, faults, calls⟩ := m
    obtain rfl : faults = .none := hf
    exact ⟨calls, rfl⟩
  | ask q next ih =>
    rw [Activity.ofDialogue, Activity.bind, perform_quiet hf hd]
    exact ih (Backends.respond q m.world.backends).1 (m := ⟨m.clock, _, .none, q :: m.world.calls⟩) rfl hd

end Rehearsal

namespace Http

def Request.IsUpload (r : Http.Request) : Prop := r.method = "POST" ∧ r.path = "/upload-new"

structure Request.Uploads (r : Request) (limit : Nat) (fields : List FormField) : Prop where
  method : r.method = "POST"
  path : r.path = "/upload-new"
  data : ∃ boundary, (r.textHeader? "content-type").bind MediaType.boundary? = some boundary ∧
    FormData.read boundary r.body = ⟨fields.map FormField.received, true⟩
  length : r.contentLength?.getD r.body.size = r.body.size
  size : r.body.size ≤ limit

end Http

namespace Deployment

open Upload

section

variable {σ : Type} (d : Deployment σ)

def described (r : Http.Request) (form : UploadForm) (payload : Bytes) : Request :=
  ⟨r.textHeader? "authorization", form.metadata, form.chunk, payload⟩

def announced (r : Http.Request) : Nat := r.contentLength?.getD d.config.maxChunkBytes.toNat

def reading (r : Http.Request) : Except RequestError Request :=
  match formData (d.announced r) r with
  | .error e => .error e
  | .ok data => (FormDecoding.read data).map fun parts => described r parts.1 parts.2

def serve (x : Request) (m : Moment σ) : Option (Except UploadError Completion) × Moment σ :=
  d.upload x.authorization x.metadata x.chunk x.payload (some (m.clock + milliseconds d.config.requestTimeout)) m

variable {d} {x : Request} {r : Http.Request} {m : Moment σ} {fields : List Http.FormField} {form : UploadForm}
  {payload : Bytes}

lemma withinRequest_eq {α : Type} (act : Activity σ (Except UploadError α)) (m : Moment σ) :
    d.withinRequest act none m =
      (some ((act (some (m.clock + milliseconds d.config.requestTimeout)) m).1.getD (.error .timeout)),
        (act (some (m.clock + milliseconds d.config.requestTimeout)) m).2) := by
  cases h : act (some (m.clock + milliseconds d.config.requestTimeout)) m with
  | mk result m' =>
    rw [withinRequest, Activity.bind_of (Activity.within_of h)]
    cases result <;> rfl

lemma respondUpload_of_unread {e : RequestError} (h : d.reading r = .error e) :
    d.respondUpload (d.announced r) r none m = (some (d.fail (.request e)), m) := by
  rw [reading] at h
  rw [respondUpload]
  cases hdata : formData (d.announced r) r with
  | error e' =>
    rw [hdata] at h
    cases h
    rfl
  | ok data =>
    rw [hdata] at h
    dsimp only at h ⊢
    rw [uploadForm]
    cases hread : FormDecoding.read data with
    | error e' =>
      rw [hread] at h
      cases h
      rfl
    | ok parts =>
      rw [hread] at h
      cases h

lemma respondUpload_of_reading (h : d.reading r = .ok x) : d.respondUpload (d.announced r) r none m =
    (some (d.uploadReply ((d.serve x m).1.getD (.error .timeout))), (d.serve x m).2) := by
  rw [reading] at h
  rw [respondUpload]
  cases hdata : formData (d.announced r) r with
  | error e =>
    rw [hdata] at h
    cases h
  | ok data =>
    rw [hdata] at h
    dsimp only at h ⊢
    rw [uploadForm]
    cases hread : FormDecoding.read data with
    | error e =>
      rw [hread] at h
      cases h
    | ok parts =>
      rw [hread] at h
      cases h
      exact Activity.bind_of (withinRequest_eq _ m) _

lemma respond_of_route {route : Service.Route} (hroute : Service.Route.ofPath? r.path = some route)
    (hmethod : r.method ∈ route.methods) (hhead : r.method ≠ "HEAD") : (d.respond r).finish m =
    if d.config.maxChunkBytes.toNat < d.announced r then (some (.text 413 "length limit exceeded"), m)
    else d.respondRoute (d.announced r) r route none m := by
  have hallowed : ¬ r.method ∉ route.methods := not_not_intro hmethod
  rw [Activity.finish, respond]
  by_cases hlong : d.config.maxChunkBytes.toNat < r.contentLength?.getD d.config.maxChunkBytes.toNat
  · have hannounced : d.config.maxChunkBytes.toNat < d.announced r := hlong
    simp only [if_pos hlong, if_pos hannounced]
    rfl
  · have hannounced : ¬ d.config.maxChunkBytes.toNat < d.announced r := hlong
    simp only [if_neg hlong, if_neg hannounced, hroute, if_neg hallowed, if_neg hhead]
    change Activity.bind (d.respondRoute (d.announced r) r route) Activity.done none m = _
    rw [Activity.bind]
    cases d.respondRoute (d.announced r) r route none m with
    | mk reply m' => cases reply <;> rfl

lemma respond_eq (hr : r.IsUpload) : (d.respond r).finish m =
    if d.config.maxChunkBytes.toNat < d.announced r then (some (.text 413 "length limit exceeded"), m)
    else d.respondUpload (d.announced r) r none m := by
  obtain ⟨hmethod, hpath⟩ := hr
  have hroute : Service.Route.ofPath? r.path = some .upload := by
    rw [hpath]
    rfl
  exact respond_of_route hroute (by rw [hmethod]; decide) (by rw [hmethod]; decide)

lemma respond_cases (hr : r.IsUpload) (m : Moment σ) :
    (d.respond r).finish m = (some (.text 413 "length limit exceeded"), m) ∨
      (∃ e, d.reading r = .error e ∧ (d.respond r).finish m = (some (d.fail (.request e)), m)) ∨
      ∃ x, d.reading r = .ok x ∧ (d.respond r).finish m =
        (some (d.uploadReply ((d.serve x m).1.getD (.error .timeout))), (d.serve x m).2) := by
  rw [respond_eq hr]
  split
  · exact .inl rfl
  cases hread : d.reading r with
  | error e => exact .inr (.inl ⟨e, rfl, respondUpload_of_unread hread⟩)
  | ok x => exact .inr (.inr ⟨x, rfl, respondUpload_of_reading hread⟩)

lemma announced_length {limit : Nat} (hu : r.Uploads limit fields) :
    r.body.size ≤ r.contentLength?.getD limit ∧ r.contentLength?.getD limit ≤ limit := by
  have hlength := hu.length
  have hsize := hu.size
  cases hc : r.contentLength? with
  | none => exact ⟨hsize, Nat.le_refl _⟩
  | some n =>
    rw [hc] at hlength
    obtain rfl : n = r.body.size := hlength
    exact ⟨Nat.le_refl _, hsize⟩

lemma formData_upload {limit : Nat} (hu : r.Uploads limit fields) :
    formData (r.contentLength?.getD limit) r = .ok ⟨fields.map Http.FormField.received, true⟩ := by
  obtain ⟨boundary, hboundary, hdata⟩ := hu.data
  rw [formData, hboundary]
  dsimp only
  rw [if_neg (Nat.not_lt.mpr (announced_length hu).1), hdata]

lemma respond_of_uploads (hu : r.Uploads d.config.maxChunkBytes.toNat fields)
    (hform : FormDecoding.read ⟨fields.map Http.FormField.received, true⟩ = .ok (form, payload)) (m : Moment σ) :
    d.reading r = .ok (described r form payload) ∧ (d.respond r).finish m =
      (some (d.uploadReply ((d.serve (described r form payload) m).1.getD (.error .timeout))),
        (d.serve (described r form payload) m).2) := by
  have hread : d.reading r = .ok (described r form payload) := by
    rw [reading, announced, formData_upload hu]
    dsimp only
    rw [hform]
    rfl
  have hfits : ¬ d.config.maxChunkBytes.toNat < d.announced r := Nat.not_lt.mpr (announced_length hu).2
  refine ⟨hread, ?_⟩
  rw [respond_eq ⟨hu.method, hu.path⟩, if_neg hfits, respondUpload_of_reading hread]

end

variable {config : Config} {r : Http.Request} {fields : List Http.FormField} {form : UploadForm} {payload : Bytes}
  {m : Moment Rehearsal} {b : Backends} {result : Except UploadError Completion}

theorem respond_upload (hu : r.Uploads config.maxChunkBytes.toNat fields)
    (hform : FormDecoding.read ⟨fields.map Http.FormField.received, true⟩ = .ok (form, payload))
    (hf : m.world.faults = .none)
    (hs : (described r form payload).serve config.policy m.world.backends = (result, b)) : ∃ calls,
      ((Rehearsal.deployment config).respond r).finish m =
        (some ((Rehearsal.deployment config).uploadReply result), ⟨m.clock, b, .none, calls⟩) := by
  obtain ⟨calls, hrun⟩ := Rehearsal.ofDialogue_quiet ((described r form payload).procedure config.policy)
    (some (m.clock + milliseconds config.requestTimeout)) hf (by simp)
  have hserve : (Rehearsal.deployment config).serve (described r form payload) m =
      (some ((described r form payload).serve config.policy m.world.backends).1,
        ⟨m.clock, ((described r form payload).serve config.policy m.world.backends).2, .none, calls⟩) := hrun
  rw [hs] at hserve
  refine ⟨calls, ?_⟩
  rw [(respond_of_uploads (d := Rehearsal.deployment config) hu hform m).2, hserve]
  rfl

end Deployment

end ResumableUpload
