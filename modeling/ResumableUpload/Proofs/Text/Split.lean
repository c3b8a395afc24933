import Mathlib.Tactic.Lemma
import ResumableUpload.Text.Split

/-! Texts that are divided at the characters of a class, and joined again. -/

namespace ResumableUpload.Text

variable {α : Type} {p q : α → Bool} {l : List α}

lemma splitBy_eq (p : Char → Bool) (cs : List Char) : splitBy p cs = cs.splitOnP p := by
  induction cs with
  | nil => rfl
  | cons c rest ih =>
    rw [splitBy, List.splitOnP_cons_eq_if_modifyHead, ih]
    split
    · rfl
    · cases h : rest.splitOnP p with
      | nil => exact absurd h (List.splitOnP_ne_nil _ _)
      | cons first more => rfl

lemma splitOnP_congr (h : ∀ c ∈ l, p c = q c) : l.splitOnP p = l.splitOnP q := by
  induction l with
  | nil => rfl
  | cons c rest ih =>
    obtain ⟨hc, hrest⟩ := List.forall_mem_cons.mp h
    rw [List.splitOnP_cons_eq_if_modifyHead, List.splitOnP_cons_eq_if_modifyHead, hc, ih hrest]

lemma of_mem_splitOnP {piece : List α} (h : piece ∈ l.splitOnP p) : ∀ c ∈ piece, c ∈ l ∧ p c = false := by
  induction l generalizing piece with
  | nil =>
    obtain rfl : piece = [] := by simpa using h
    exact List.forall_mem_nil _
  | cons d rest ih =>
    have hlift : ∀ piece ∈ rest.splitOnP p, ∀ c ∈ piece, c ∈ d :: rest ∧ p c = false := fun piece hpiece c hc =>
      ⟨List.mem_cons_of_mem _ (ih hpiece c hc).1, (ih hpiece c hc).2⟩
    rw [List.splitOnP_cons_eq_if_modifyHead] at h
    split at h
    · rcases List.mem_cons.mp h with rfl | h
      · exact List.forall_mem_nil _
      · exact hlift piece h
    · next hd =>
      cases hsplit : rest.splitOnP p with
      | nil => exact absurd hsplit (List.splitOnP_ne_nil _ _)
      | cons first more =>
        rw [hsplit] at h hlift
        rcases List.mem_cons.mp h with rfl | h
        · exact List.forall_mem_cons.mpr
            ⟨⟨List.mem_cons_self, eq_false_of_ne_true hd⟩, hlift first List.mem_cons_self⟩
        · exact hlift piece (List.mem_cons_of_mem _ h)

lemma intercalate_cons (sep first : List α) (more : List (List α)) :
    sep.intercalate (first :: more) = first ++ more.flatMap (sep ++ ·) := by
  induction more generalizing first with
  | nil => simp [List.intercalate]
  | cons second more ih => rw [List.intercalate_cons_cons, ih, List.flatMap_cons, List.append_assoc, List.append_assoc]

lemma takeWhile_append_cons {front rest : List α} {c : α} (h : p c = false) :
    (front ++ c :: rest).takeWhile p = front.takeWhile p := by
  induction front with
  | nil => simp [h]
  | cons d front ih =>
    rw [List.cons_append, List.takeWhile_cons, List.takeWhile_cons, ih]

end ResumableUpload.Text
