import ResumableUpload.Service.Deployment
import Mathlib.Tactic

/-! Deployments that nobody can tell apart, though what is behind them differs. -/

namespace ResumableUpload

namespace Activity

variable {σ σ' α β : Type} {R : σ' → σ → Prop}

inductive Alike (R : σ' → σ → Prop) : Option α × Moment σ' → Option α × Moment σ → Prop
  | intro (result : Option α) (clock : Nat) {w' : σ'} {w : σ} : R w' w → Alike R (result, ⟨clock, w'⟩) (result, ⟨clock, w⟩)

lemma Alike.fst_eq {after' : Option α × Moment σ'} {after : Option α × Moment σ} (h : Alike R after' after) :
    after'.1 = after.1 := by
  cases h with
  | intro _ _ _ => rfl

def Simulates (R : σ' → σ → Prop) (x' : Activity σ' α) (x : Activity σ α) : Prop :=
  ∀ (deadline : Option Nat) (clock : Nat) {w' : σ'} {w : σ}, R w' w →
    Alike R (x' deadline ⟨clock, w'⟩) (x deadline ⟨clock, w⟩)

namespace Simulates

variable {x' z' : Activity σ' α} {x z : Activity σ α} {y' : Activity σ' β} {y : Activity σ β}

lemma done (a : α) : Simulates R (pure a) (pure a) := fun _ _ _ _ h => .intro _ _ h

lemma bind {f' : α → Activity σ' β} {f : α → Activity σ β} (hx : Simulates R x' x)
    (hf : ∀ a, Simulates R (f' a) (f a)) : Simulates R (x' >>= f') (x >>= f) := by
  intro deadline clock w' w h
  have hafter := hx deadline clock h
  change Alike R (Activity.bind x' f' deadline _) (Activity.bind x f deadline _)
  rw [Activity.bind, Activity.bind]
  generalize x' deadline ⟨clock, w'⟩ = after', x deadline ⟨clock, w⟩ = after at hafter ⊢
  cases hafter with
  | intro result clock h =>
    cases result with
    | none => exact .intro _ _ h
    | some a => exact hf a deadline clock h

lemma map (f : α → β) (hx : Simulates R x' x) : Simulates R (f <$> x') (f <$> x) := hx.bind fun a => done (f a)

lemma both (hx : Simulates R x' x) (hy : Simulates R y' y) : Simulates R (x'.both y') (x.both y) := by
  intro deadline clock w' w h
  have hafter := hx deadline clock h
  rw [Activity.both, Activity.both]
  generalize x' deadline ⟨clock, w'⟩ = after', x deadline ⟨clock, w⟩ = after at hafter ⊢
  cases hafter with
  | @intro _ _ w₁' w₁ h =>
    have hlast := hy deadline clock h
    dsimp only
    generalize y' deadline ⟨clock, w₁'⟩ = last', y deadline ⟨clock, w₁⟩ = last at hlast ⊢
    cases hlast with
    | intro _ _ h => exact .intro _ _ h

lemma ite {c : Prop} [Decidable c] (hx : Simulates R x' x) (hz : Simulates R z' z) :
    Simulates R (if c then x' else z') (if c then x else z) := by
  split
  · exact hx
  · exact hz

lemma within (limit : Nat) (hx : Simulates R x' x) : Simulates R (x'.within limit) (x.within limit) := by
  -- whichever deadline comes first, and whatever is made of the result
  have hcut : ∀ (cut clock : Nat) (f : Option α → Option (Option α)) {w' : σ'} {w : σ}, R w' w →
      Alike R ((fun p => (f p.1, p.2)) (x' (some cut) ⟨clock, w'⟩)) ((fun p => (f p.1, p.2)) (x (some cut) ⟨clock, w⟩)) := by
    intro cut clock f w' w h
    have hafter := hx (some cut) clock h
    generalize x' (some cut) ⟨clock, w'⟩ = after', x (some cut) ⟨clock, w⟩ = after at hafter ⊢
    cases hafter with
    | intro _ _ h => exact .intro _ _ h
  intro deadline clock w' w h
  cases deadline with
  | none => exact hcut _ _ some h
  | some outer =>
    rw [Activity.within, Activity.within]
    dsimp only
    split
    · exact hcut _ _ some h
    · exact hcut _ _ (Option.map some) h

lemma ofDialogue {Q : Type} {A : Q → Type} {perform' : (q : Q) → Activity σ' (A q)} {perform : (q : Q) → Activity σ (A q)}
    (h : ∀ q, Simulates R (perform' q) (perform q)) (p : Dialogue Q A α) :
    Simulates R (Activity.ofDialogue perform' p) (Activity.ofDialogue perform p) := by
  induction p with
  | done a => exact done a
  | ask q next ih => exact (h q).bind ih

end Simulates

end Activity

namespace Deployment

variable {σ σ' α : Type}

section

variable {d' : Deployment σ'} {d : Deployment σ} (h : d'.config = d.config)

include h

lemma fail_of_config : d'.fail = d.fail := by
  funext f
  rw [Deployment.fail, Deployment.fail, exposeDetails, exposeDetails, h]

lemma uploadReply_of_config : d'.uploadReply = d.uploadReply := by
  funext result
  rw [Deployment.uploadReply.eq_def, Deployment.uploadReply.eq_def, fail_of_config h]

end

structure Simulates (R : σ' → σ → Prop) (d' : Deployment σ') (d : Deployment σ) : Prop where
  config : d'.config = d.config
  objectUrl : d'.objectUrl = d.objectUrl
  perform : ∀ q, Activity.Simulates R (d'.perform q) (d.perform q)

namespace Simulates

variable {R : σ' → σ → Prop} {d' : Deployment σ'} {d : Deployment σ} (h : d'.Simulates R d)

include h

lemma fail : d'.fail = d.fail := fail_of_config h.config

lemma uploadReply : d'.uploadReply = d.uploadReply := uploadReply_of_config h.config

lemma carryOut (p : Procedure α) : Activity.Simulates R (d'.carryOut p) (d.carryOut p) := .ofDialogue h.perform p

lemma status (authorization : Option String) (path : String) :
    Activity.Simulates R (d'.status authorization path) (d.status authorization path) := by
  rw [Deployment.status, Deployment.status, h.config]
  refine (h.carryOut _).bind fun found => ?_
  cases found with
  | error e => exact .done _
  | ok m => exact ((h.carryOut _).both (h.carryOut _)).bind fun _ => .done _

lemma withinRequest {x' : Activity σ' (Except UploadError α)} {x : Activity σ (Except UploadError α)}
    (hx : Activity.Simulates R x' x) : Activity.Simulates R (d'.withinRequest x') (d.withinRequest x) := by
  rw [Deployment.withinRequest, Deployment.withinRequest, h.config]
  refine (hx.within _).bind fun result => ?_
  cases result <;> exact .done _

lemma finding {x' : Activity σ' (Except String Unit)} {x : Activity σ (Except String Unit)}
    (hx : Activity.Simulates R x' x) : Activity.Simulates R (d'.finding x') (d.finding x) := by
  rw [Deployment.finding, Deployment.finding, h.config]
  refine (hx.within _).bind fun result => ?_
  rcases result with _ | _ | _ <;> exact .done _

lemma health : Activity.Simulates R d'.health d.health := by
  rw [Deployment.health, Deployment.health, h.config]
  have hsecrets : Activity.Simulates R (if d.config.encryptionEnabled then some <$> d'.finding d'.checkSecrets else pure none)
      (if d.config.encryptionEnabled then some <$> d.finding d.checkSecrets else pure none) :=
    .ite ((h.finding ((h.carryOut _).map _)).map _) (.done _)
  exact ((h.finding ((h.carryOut _).map _)).both ((h.finding ((h.carryOut _).map _)).both hsecrets)).bind fun _ => .done _

lemma upload (authorization : Option String) (m : FileMetadata) (c : Chunk) (payload : Bytes) :
    Activity.Simulates R (d'.upload authorization m c payload) (d.upload authorization m c payload) := by
  rw [Deployment.upload, Deployment.upload, h.config]
  exact h.carryOut _

lemma uploadForm (authorization : Option String) (data : Http.FormData) :
    Activity.Simulates R (d'.uploadForm authorization data) (d.uploadForm authorization data) := by
  rw [Deployment.uploadForm, Deployment.uploadForm, h.fail]
  cases FormDecoding.read data with
  | error e => exact .done _
  | ok parts =>
    rw [h.uploadReply]
    exact (h.withinRequest (h.upload _ _ _ _)).bind fun _ => .done _

lemma respondUpload (limit : Nat) (r : Http.Request) :
    Activity.Simulates R (d'.respondUpload limit r) (d.respondUpload limit r) := by
  rw [Deployment.respondUpload, Deployment.respondUpload, h.fail]
  cases formData limit r with
  | error e => exact .done _
  | ok data => exact h.uploadForm _ _

lemma respondStatus (r : Http.Request) (path : String) :
    Activity.Simulates R (d'.respondStatus r path) (d.respondStatus r path) := by
  rw [Deployment.respondStatus, Deployment.respondStatus, h.fail]
  refine (h.withinRequest (h.status _ _)).bind fun result => ?_
  cases result <;> exact .done _

lemma respondRoute (limit : Nat) (r : Http.Request) (route : Service.Route) :
    Activity.Simulates R (d'.respondRoute limit r route) (d.respondRoute limit r route) := by
  cases route with
  | health => exact h.health.bind fun _ => .done _
  | upload => exact h.respondUpload limit r
  | object path =>
    rw [Deployment.respondRoute, Deployment.respondRoute, h.objectUrl]
    cases Service.Route.decodePath? path <;> exact .done _
  | status path =>
    rw [Deployment.respondRoute, Deployment.respondRoute]
    cases Service.Route.decodePath? path with
    | none => exact .done _
    | some path => exact h.respondStatus r path

theorem respond (r : Http.Request) : Activity.Simulates R (d'.respond r) (d.respond r) := by
  rw [Deployment.respond, Deployment.respond, h.config]
  refine .ite (.done _) ?_
  cases Service.Route.ofPath? r.path with
  | none => exact .done _
  | some route =>
    exact .ite (.done _) ((h.respondRoute _ r route).bind fun _ => .done _)

end Simulates

end Deployment

end ResumableUpload
