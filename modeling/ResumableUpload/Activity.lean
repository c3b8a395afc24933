import ResumableUpload.Dialogue

/-! Work that takes time and may be cut off by a deadline. Time passes only while something is waited for. -/

namespace ResumableUpload

structure Moment (σ : Type) where
  clock : Nat
  world : σ

/-- What becomes of a moment, up to a deadline if there is one. There is no result when the deadline has
passed; what was done before stays done. -/
def Activity (σ α : Type) := Option Nat → Moment σ → Option α × Moment σ

namespace Activity

variable {σ α β : Type}

def done (a : α) : Activity σ α := fun _ m => (some a, m)

def bind (x : Activity σ α) (f : α → Activity σ β) : Activity σ β := fun deadline m =>
  match x deadline m with
  | (some a, m) => f a deadline m
  | (none, m) => (none, m)

instance : Monad (Activity σ) where
  pure := done
  bind := bind

def act (f : σ → α × σ) : Activity σ α := fun _ m =>
  let (a, world) := f m.world
  (some a, { m with world })

def wait (duration : Nat) : Activity σ Unit := fun deadline m =>
  let wake := m.clock + duration
  match deadline with
  -- waits for some milliseconds; a wait that ends with the deadline is not cut off
  | none => (some (), { m with clock := wake })
  | some limit =>
    if wake ≤ limit then (some (), { m with clock := wake })
    else (none, { m with clock := max m.clock limit })

def both (x : Activity σ α) (y : Activity σ β) : Activity σ (α × β) := fun deadline m =>
  let (a, m₁) := x deadline m
  let (b, m₂) := y deadline ⟨m.clock, m₁.world⟩
  (do return (← a, ← b), ⟨max m₁.clock m₂.clock, m₂.world⟩)

def within (limit : Nat) (x : Activity σ α) : Activity σ (Option α) := fun deadline m =>
  let own := m.clock + limit
  match deadline with
  | none => let (a, m) := x (some own) m; (some a, m)
  | some outer =>
    if own ≤ outer then let (a, m) := x (some own) m; (some a, m)
    else let (a, m) := x (some outer) m; (a.map some, m)

def ofDialogue {Q : Type} {A : Q → Type} (perform : (q : Q) → Activity σ (A q)) :
    Dialogue Q A α → Activity σ α
  | .done a => done a
  | .ask q next => (perform q).bind fun answer => ofDialogue perform (next answer)

def finish (x : Activity σ α) (m : Moment σ) : Option α × Moment σ := x none m

end Activity

end ResumableUpload
