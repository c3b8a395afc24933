/-! Computations that put questions to their surroundings, one at a time. -/

namespace ResumableUpload

/-- Every question has answers of a type of its own. -/
inductive Dialogue (Q : Type) (A : Q → Type) (α : Type) : Type
  | done (a : α)
  | ask (q : Q) (next : A q → Dialogue Q A α)

namespace Dialogue

variable {Q : Type} {A : Q → Type} {R : Type} {B : R → Type} {α β γ σ : Type}

def bind : Dialogue Q A α → (α → Dialogue Q A β) → Dialogue Q A β
  | .done a, f => f a
  | .ask q next, f => .ask q fun answer => (next answer).bind f

instance : Monad (Dialogue Q A) where
  pure := .done
  bind := .bind

def query (q : Q) : Dialogue Q A (A q) := .ask q .done

theorem bind_done (d : Dialogue Q A α) : d.bind .done = d := by
  induction d with
  | done a => rfl
  | ask q next ih => simp only [bind]; congr; funext answer; exact ih answer

theorem bind_assoc (d : Dialogue Q A α) (f : α → Dialogue Q A β) (g : β → Dialogue Q A γ) :
    (d.bind f).bind g = d.bind fun a => (f a).bind g := by
  induction d with
  | done a => rfl
  | ask q next ih => simp only [bind]; congr; funext answer; exact ih answer

instance : LawfulMonad (Dialogue Q A) :=
  LawfulMonad.mk' _ (fun d => bind_done d) (fun _ _ => rfl) (fun d f g => bind_assoc d f g)

def run (respond : (q : Q) → σ → A q × σ) : Dialogue Q A α → σ → α × σ
  | .done a, s => (a, s)
  | .ask q next, s =>
    let (answer, s) := respond q s
    (next answer).run respond s

def expand (through : (q : Q) → Dialogue R B (A q)) : Dialogue Q A α → Dialogue R B α
  | .done a => .done a
  | .ask q next => (through q).bind fun answer => (next answer).expand through

@[simp] theorem run_bind (respond : (q : Q) → σ → A q × σ) (d : Dialogue Q A α) (f : α → Dialogue Q A β)
    (s : σ) : (d.bind f).run respond s = (f (d.run respond s).1).run respond (d.run respond s).2 := by
  induction d generalizing s with
  | done a => rfl
  | ask q next ih => exact ih _ _

end Dialogue

end ResumableUpload
