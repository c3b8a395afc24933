import ResumableUpload.Proofs.Service.Serving

/-! Uploads and requests for a status, one after the other. While nothing fails they do no more than their calls. -/

namespace ResumableUpload

inductive Operation
  | upload (r : Upload.Request)
  | status (authorization : Option String) (path : String)

inductive Outcome
  | upload (result : Except UploadError Completion)
  | status (result : Except UploadError Status)

namespace Deployment

variable {σ : Type} (d : Deployment σ)

def execute : Operation → Activity σ Outcome
  | .upload r => Outcome.upload <$> d.upload r.authorization r.metadata r.chunk r.payload
  | .status authorization path => Outcome.status <$> d.status authorization path

def session : List Operation → Activity σ (List (Operation × Outcome))
  | [] => pure []
  | op :: ops => do
    let outcome ← d.execute op
    let history ← session ops
    return (op, outcome) :: history

end Deployment

def Probe.status (keyRoot : Option String) (authorization : Option String) (path : String) :
    Procedure (Except UploadError Status) := do
  match ← (metadata authorization path).run with
  | .error e => return .error e
  | .ok m =>
    let content ← content path
    let key ← key keyRoot path
    return .ok ⟨m, content, key⟩

namespace Operation

variable {σ : Type}

def path : Operation → String
  | upload r => r.path
  | status _ path => path

def procedure (policy : UploadPolicy) : Operation → Procedure Outcome
  | upload r => Outcome.upload <$> r.procedure policy
  | status authorization path => Outcome.status <$> Probe.status policy.keyRoot authorization path

def session (policy : UploadPolicy) : List Operation → Procedure (List (Operation × Outcome))
  | [] => pure []
  | op :: ops => do
    let outcome ← op.procedure policy
    let history ← session policy ops
    return (op, outcome) :: history

lemma run_session_cons (respond : (q : Call) → σ → q.Answer × σ) (policy : UploadPolicy) (op : Operation)
    (ops : List Operation) (s : σ) : (session policy (op :: ops)).run respond s =
      let (outcome, s) := (op.procedure policy).run respond s
      let (history, s) := (session policy ops).run respond s
      ((op, outcome) :: history, s) := by
  change (Dialogue.bind _ fun _ => Dialogue.bind _ fun _ => .done _).run respond s = _
  simp only [Dialogue.run_bind]
  rfl

end Operation

namespace Rehearsal

def Quiet {α : Type} (x : Activity Rehearsal α) (p : Procedure α) : Prop :=
  ∀ clock b calls, ∃ calls', x none ⟨clock, b, .none, calls⟩ =
    (some (p.run Backends.respond b).1, ⟨clock, (p.run Backends.respond b).2, .none, calls'⟩)

namespace Quiet

variable {α β : Type} {x : Activity Rehearsal α} {y : Activity Rehearsal β} {p : Procedure α} {q : Procedure β}

lemma ofDialogue (p : Procedure α) : Quiet (.ofDialogue perform p) p := by
  intro clock b calls
  exact ofDialogue_quiet p none rfl nofun

lemma done (a : α) : Quiet (pure a) (pure a) := fun _ _ calls => ⟨calls, rfl⟩

lemma bind {f : α → Activity Rehearsal β} {g : α → Procedure β} (hx : Quiet x p) (hf : ∀ a, Quiet (f a) (g a)) :
    Quiet (x >>= f) (p >>= g) := by
  intro clock b calls
  obtain ⟨calls₁, hx⟩ := hx clock b calls
  obtain ⟨calls₂, hf⟩ := hf (p.run Backends.respond b).1 clock (p.run Backends.respond b).2 calls₁
  have hrun : (p >>= g).run Backends.respond b = _ := Dialogue.run_bind Backends.respond p g b
  refine ⟨calls₂, ?_⟩
  rw [Activity.bind_of hx, hf, hrun]

lemma map (f : α → β) (hx : Quiet x p) : Quiet (f <$> x) (f <$> p) := hx.bind fun a => done (f a)

lemma both (hx : Quiet x p) (hy : Quiet y q) : Quiet (x.both y) (do return (← p, ← q)) := by
  intro clock b calls
  obtain ⟨calls₁, hx⟩ := hx clock b calls
  obtain ⟨calls₂, hy⟩ := hy clock (p.run Backends.respond b).2 calls₁
  have hrun : Dialogue.run Backends.respond (do return (← p, ← q)) b =
      (((p.run Backends.respond b).1, (q.run Backends.respond (p.run Backends.respond b).2).1),
        (q.run Backends.respond (p.run Backends.respond b).2).2) := by
    change (Dialogue.bind p fun _ => Dialogue.bind q fun _ => .done _).run Backends.respond b = _
    simp only [Dialogue.run_bind]
    rfl
  refine ⟨calls₂, ?_⟩
  -- no time passes, so the second begins where the first has ended
  rw [Activity.both, hx]
  dsimp only
  rw [hy, hrun]
  simp

variable (config : Config)

lemma status (authorization : Option String) (path : String) : Quiet ((deployment config).status authorization path)
    (Probe.status config.policy.keyRoot authorization path) := by
  refine (ofDialogue (Probe.metadata authorization path).run).bind fun result => ?_
  cases result with
  | error e => exact done _
  | ok m =>
    have hboth := both (ofDialogue (Probe.content path)) (ofDialogue (Probe.key config.policy.keyRoot path))
    have hstatus := hboth.map fun probes => (.ok ⟨m, probes.1, probes.2⟩ : Except UploadError Status)
    simp only [map_eq_pure_bind, bind_assoc, pure_bind] at hstatus
    exact hstatus

lemma execute (op : Operation) : Quiet ((deployment config).execute op) (op.procedure config.policy) := by
  cases op with
  | upload r => exact (ofDialogue _).map Outcome.upload
  | status authorization path => exact (status config authorization path).map Outcome.status

theorem session (ops : List Operation) :
    Quiet ((deployment config).session ops) (Operation.session config.policy ops) := by
  induction ops with
  | nil => exact done _
  | cons op ops ih => exact (execute config op).bind fun outcome => ih.map fun history => (op, outcome) :: history

end Quiet

end Rehearsal

end ResumableUpload
