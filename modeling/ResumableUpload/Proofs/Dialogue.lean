import ResumableUpload.Dialogue
import Mathlib.Tactic.Lemma

/-! Dialogues whose questions may be answered in several ways, with the record of what was said. -/

namespace ResumableUpload.Dialogue

variable {Q : Type} {A : Q → Type} {α β σ : Type}

def first? : Dialogue Q A α → Option Q
  | .done _ => none
  | .ask q _ => some q

lemma first?_map (f : α → β) (d : Dialogue Q A α) : (f <$> d).first? = d.first? := by cases d <;> rfl

def Asks (P : Q → Prop) : Dialogue Q A α → Prop
  | .done _ => True
  | .ask q next => P q ∧ ∀ a, (next a).Asks P

lemma Asks.bind {P : Q → Prop} {d : Dialogue Q A α} {f : α → Dialogue Q A β} (hd : d.Asks P)
    (hf : ∀ a, (f a).Asks P) : (d >>= f).Asks P := by
  change (d.bind f).Asks P
  induction d with
  | done a => exact hf a
  | ask q next ih => exact ⟨hd.1, fun a => ih a (hd.2 a)⟩

lemma Asks.map {P : Q → Prop} {d : Dialogue Q A α} (hd : d.Asks P) (f : α → β) : (f <$> d).Asks P :=
  hd.bind fun _ => trivial

structure Line (A : Q → Type) where
  question : Q
  answer : A question

/-- A dialogue ends with a value after some lines. What is behind the answers has a state, and `answers` says which
answers it may give and where they lead. -/
inductive Yields (answers : σ → (q : Q) → A q → σ → Prop) : Dialogue Q A α → σ → List (Line A) → α → σ → Prop
  | done {a : α} {s : σ} : Yields answers (.done a) s [] a s
  | ask {q : Q} {next : A q → Dialogue Q A α} {r : A q} {a : α} {s s₁ s₂ : σ} {lines : List (Line A)} :
      answers s q r s₁ → Yields answers (next r) s₁ lines a s₂ → Yields answers (.ask q next) s (⟨q, r⟩ :: lines) a s₂

variable {answers : σ → (q : Q) → A q → σ → Prop} {s s' : σ} {lines : List (Line A)}

lemma Yields.of_bind {x : Dialogue Q A α} {f : α → Dialogue Q A β} {b : β}
    (h : Yields answers (x >>= f) s lines b s') : ∃ a s₁ before behind, Yields answers x s before a s₁ ∧
      Yields answers (f a) s₁ behind b s' ∧ lines = before ++ behind := by
  change Yields answers (x.bind f) s lines b s' at h
  induction x generalizing s lines with
  | done a => exact ⟨a, s, [], lines, .done, h, rfl⟩
  | ask q next ih =>
    cases h with
    | ask hr hrest =>
      obtain ⟨a, s₁, before, behind, hx, hf, rfl⟩ := ih _ hrest
      exact ⟨a, s₁, _ :: before, behind, .ask hr hx, hf, rfl⟩

lemma Yields.of_map {x : Dialogue Q A α} {f : α → β} {b : β} (h : Yields answers (f <$> x) s lines b s') :
    ∃ a, Yields answers x s lines a s' ∧ b = f a := by
  induction x generalizing s lines with
  | done a =>
    cases h
    exact ⟨a, .done, rfl⟩
  | ask q next ih =>
    cases h with
    | ask hr hrest =>
      obtain ⟨a, hx, rfl⟩ := ih _ hrest
      exact ⟨a, .ask hr hx, rfl⟩

lemma Yields.bind {x : Dialogue Q A α} {f : α → Dialogue Q A β} {a : α} {b : β} {s₁ : σ} {before behind : List (Line A)}
    (hx : Yields answers x s before a s₁) (hf : Yields answers (f a) s₁ behind b s') :
    Yields answers (x >>= f) s (before ++ behind) b s' := by
  induction hx with
  | done => exact hf
  | ask hr _ ih => exact .ask hr (ih hf)

lemma Yields.map {x : Dialogue Q A α} {a : α} (hx : Yields answers x s lines a s') (f : α → β) :
    Yields answers (f <$> x) s lines (f a) s' := by
  induction hx with
  | done => exact .done
  | ask hr _ ih => exact .ask hr ih

lemma run_map (respond : (q : Q) → σ → A q × σ) (f : α → β) (d : Dialogue Q A α) (s : σ) :
    (f <$> d).run respond s = (f (d.run respond s).1, (d.run respond s).2) := run_bind respond d _ s

lemma exists_yields_run (respond : (q : Q) → σ → A q × σ) (hr : ∀ q s, answers s q (respond q s).1 (respond q s).2)
    (d : Dialogue Q A α) (s : σ) : ∃ lines, Yields answers d s lines (d.run respond s).1 (d.run respond s).2 := by
  induction d generalizing s with
  | done a => exact ⟨[], .done⟩
  | ask q next ih =>
    obtain ⟨lines, h⟩ := ih (respond q s).1 (respond q s).2
    exact ⟨_, .ask (hr q s) h⟩

end ResumableUpload.Dialogue
