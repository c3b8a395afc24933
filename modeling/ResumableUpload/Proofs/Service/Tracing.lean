import ResumableUpload.Proofs.Service.Serving
import ResumableUpload.Proofs.Service.Simulation
import ResumableUpload.Proofs.Upload.Transcript

/-! What becomes of an upload that is cut off by a deadline, over backends of any kind. -/

namespace ResumableUpload

open Service (Failure Reply)
open Upload (Exchange)

structure Step (σ : Type) where
  before : σ
  call : Call
  answer : call.Answer
  after : σ

def Step.exchange {σ : Type} (x : Upload.Request) (s : Step σ) : Exchange := ⟨x, s.call, s.answer⟩

namespace Deployment

variable {σ : Type} (d : Deployment σ)

def Gives (w : σ) (q : Call) (a : q.Answer) (w' : σ) : Prop :=
  ∃ deadline clock clock', d.perform q deadline ⟨clock, w⟩ = (some a, ⟨clock', w'⟩)

def Drops (w : σ) (q : Call) (w' : σ) : Prop :=
  ∃ deadline clock clock', d.perform q deadline ⟨clock, w⟩ = (none, ⟨clock', w'⟩)

inductive Ends (x : Upload.Request) (w : σ) : List Exchange → Option (Except UploadError Completion) → σ → Prop
  | answered {log : List Exchange} {result : Except UploadError Completion} {w' : σ} :
      x.Reaches d.config.policy d.Gives w log (.done result) w' → Ends x w log (some result) w'
  | overdue {log : List Exchange} {q : Call} {next} {w₁ w' : σ} :
      x.Reaches d.config.policy d.Gives w log (.ask q next) w₁ → d.Drops w₁ q w' → Ends x w log none w'

inductive Serves (r : Http.Request) (w : σ) : Reply → σ → Prop
  | tooLong : Serves r w (.text 413 "length limit exceeded") w
  | unread {e : RequestError} : d.reading r = .error e → Serves r w (d.fail (.request e)) w
  | answered {x : Upload.Request} {log : List Exchange} {result : Except UploadError Completion} {w' : σ} :
      d.reading r = .ok x → d.Ends x w log (some result) w' → Serves r w (d.uploadReply result) w'
  | overdue {x : Upload.Request} {log : List Exchange} {w' : σ} :
      d.reading r = .ok x → d.Ends x w log none w' → Serves r w (d.fail (.upload .timeout)) w'

variable {d} {x : Upload.Request} {r : Http.Request} {w : σ} {m : Moment σ}

lemma exists_ends {p : Procedure (Except UploadError Completion)} {log : List Exchange} (deadline : Option Nat)
    (h : x.Reaches d.config.policy d.Gives w log p m.world) :
    ∃ log', d.Ends x w log' (d.carryOut p deadline m).1 (d.carryOut p deadline m).2.world := by
  induction p generalizing log m with
  | done result => exact ⟨log, .answered h⟩
  | ask q next ih =>
    rw [carryOut, Activity.ofDialogue, Activity.bind]
    cases hq : d.perform q deadline m with
    | mk answer m' =>
      cases answer with
      | none => exact ⟨log, .overdue h ⟨deadline, m.clock, m'.clock, hq⟩⟩
      | some a => exact ih a (h.answer ⟨deadline, m.clock, m'.clock, hq⟩)

lemma exists_ends_upload (x : Upload.Request) (m : Moment σ) :
    ∃ log, d.Ends x m.world log (d.serve x m).1 (d.serve x m).2.world := exists_ends _ .start

theorem serves_respond (hr : r.IsUpload) {result : Option Reply} {m' : Moment σ}
    (h : (d.respond r).finish m = (result, m')) : ∃ reply, result = some reply ∧ d.Serves r m.world reply m'.world := by
  rcases respond_cases hr m with hlong | ⟨e, hread, hunread⟩ | ⟨x, hread, hserve⟩
  · cases hlong.symm.trans h
    exact ⟨_, rfl, .tooLong⟩
  · cases hunread.symm.trans h
    exact ⟨_, rfl, .unread hread⟩
  · cases hserve.symm.trans h
    obtain ⟨log, hends⟩ := exists_ends_upload x m
    refine ⟨_, rfl, ?_⟩
    cases hresult : (d.serve x m).1 with
    | none =>
      rw [hresult] at hends
      exact .overdue hread hends
    | some result =>
      rw [hresult] at hends
      exact .answered hread hends

def traced (d : Deployment σ) : Deployment (σ × List (Step σ)) where
  config := d.config
  objectUrl := d.objectUrl
  perform q := fun deadline m =>
    let (answer, m') := d.perform q deadline ⟨m.clock, m.world.1⟩
    (answer, ⟨m'.clock, m'.world, (answer.map fun a => ⟨m.world.1, q, a, m'.world⟩).toList ++ m.world.2⟩)

variable {v v' : σ × List (Step σ)} {q : Call}

lemma perform_traced (q : Call) (deadline : Option Nat) (m : Moment (σ × List (Step σ))) :
    let run := d.perform q deadline ⟨m.clock, m.world.1⟩
    d.traced.perform q deadline m = (run.1, ⟨run.2.clock, run.2.world,
      (run.1.map fun a => ⟨m.world.1, q, a, run.2.world⟩).toList ++ m.world.2⟩) := rfl

lemma gives_of_traced {a : q.Answer} (h : d.traced.Gives v q a v') :
    d.Gives v.1 q a v'.1 ∧ v'.2 = ⟨v.1, q, a, v'.1⟩ :: v.2 := by
  obtain ⟨deadline, clock, clock', hperform⟩ := h
  rw [perform_traced] at hperform
  cases hrun : d.perform q deadline ⟨clock, v.1⟩ with
  | mk answer m' =>
    rw [hrun] at hperform
    cases hperform
    exact ⟨⟨deadline, clock, m'.clock, hrun⟩, rfl⟩

lemma steps_of_drops (h : d.traced.Drops v q v') : v'.2 = v.2 := by
  obtain ⟨deadline, clock, clock', hperform⟩ := h
  rw [perform_traced] at hperform
  cases hrun : d.perform q deadline ⟨clock, v.1⟩ with
  | mk answer m' =>
    rw [hrun] at hperform
    cases hperform
    rfl

lemma exchanges_of_reaches {log : List Exchange} {p : Procedure (Except UploadError Completion)}
    (h : x.Reaches d.config.policy d.traced.Gives (w, []) log p v) :
    v.2.map (·.exchange x) = log ∧ ∀ s ∈ v.2, d.Gives s.before s.call s.answer s.after := by
  induction h with
  | start => exact ⟨rfl, List.forall_mem_nil _⟩
  | answer _ ha ih =>
    obtain ⟨hgives, hsteps⟩ := gives_of_traced ha
    rw [hsteps, List.map_cons, ih.1]
    exact ⟨rfl, List.forall_mem_cons.mpr ⟨hgives, ih.2⟩⟩

lemma exchanges_of_ends {log : List Exchange} {result : Option (Except UploadError Completion)}
    (h : d.traced.Ends x (w, []) log result v) : v.2.map (·.exchange x) = log := by
  cases h with
  | answered h => exact (exchanges_of_reaches h).1
  | overdue h hdrops =>
    rw [steps_of_drops hdrops]
    exact (exchanges_of_reaches h).1

structure Keeps (d : Deployment σ) (P : σ → List (Step σ) → Prop) : Prop where
  answered : ∀ {w w' : σ} {q : Call} {a : q.Answer} {steps : List (Step σ)}, d.Gives w q a w' → P w steps →
    P w' (⟨w, q, a, w'⟩ :: steps)
  dropped : ∀ {w w' : σ} {q : Call} {steps : List (Step σ)}, d.Drops w q w' → P w steps → P w' steps

variable {P : σ → List (Step σ) → Prop}

lemma Keeps.simulates (h : d.Keeps P) : d.traced.Simulates (fun v w => v.1 = w ∧ P w v.2) d where
  config := rfl
  objectUrl := rfl
  perform q := by
    rintro deadline clock ⟨w, steps⟩ _ ⟨rfl, hsteps⟩
    rw [perform_traced]
    dsimp only
    cases hrun : d.perform q deadline ⟨clock, w⟩ with
    | mk answer m' =>
      refine .intro _ _ ⟨rfl, ?_⟩
      cases answer with
      | none => exact h.dropped ⟨deadline, clock, m'.clock, hrun⟩ hsteps
      | some a => exact h.answered ⟨deadline, clock, m'.clock, hrun⟩ hsteps

lemma keeps_true (d : Deployment σ) : d.Keeps fun _ _ => True := ⟨fun _ _ => trivial, fun _ _ => trivial⟩

lemma serve_traced (d : Deployment σ) (x : Upload.Request) (m : Moment σ) :
    (d.traced.serve x ⟨m.clock, m.world, []⟩).1 = (d.serve x m).1 :=
  (d.keeps_true.simulates.upload _ _ _ _ _ m.clock ⟨rfl, trivial⟩).fst_eq

def steps (d : Deployment σ) (r : Http.Request) (m : Moment σ) : List (Step σ) :=
  ((d.traced.respond r).finish ⟨m.clock, m.world, []⟩).2.world.2

lemma Keeps.alike (h : d.Keeps P) (r : Http.Request) (hm : P m.world []) :
    Activity.Alike (fun v w => v.1 = w ∧ P w v.2) ((d.traced.respond r).finish ⟨m.clock, m.world, []⟩)
      ((d.respond r).finish m) := h.simulates.respond r none m.clock ⟨rfl, hm⟩

theorem finish_traced (d : Deployment σ) (r : Http.Request) (m : Moment σ) :
    (d.traced.respond r).finish ⟨m.clock, m.world, []⟩ = (((d.respond r).finish m).1,
      ⟨((d.respond r).finish m).2.clock, ((d.respond r).finish m).2.world, d.steps r m⟩) := by
  have halike := d.keeps_true.alike r (m := m) trivial
  rw [steps]
  generalize (d.traced.respond r).finish ⟨m.clock, m.world, []⟩ = run', (d.respond r).finish m = run at halike ⊢
  cases halike with
  | intro _ _ h =>
    obtain ⟨rfl, -⟩ := h
    rfl

theorem Keeps.kept (h : d.Keeps P) (r : Http.Request) (hm : P m.world []) :
    P ((d.respond r).finish m).2.world (d.steps r m) := by
  have halike := h.alike r hm
  rw [steps]
  generalize (d.traced.respond r).finish ⟨m.clock, m.world, []⟩ = run', (d.respond r).finish m = run at halike ⊢
  cases halike with
  | intro _ _ h => exact h.2

lemma exists_serves (hr : r.IsUpload) (m : Moment σ) : ∃ reply, ((d.respond r).finish m).1 = some reply ∧
    d.traced.Serves r (m.world, []) reply (((d.respond r).finish m).2.world, d.steps r m) :=
  serves_respond hr (d.finish_traced r m)

end Deployment

end ResumableUpload
