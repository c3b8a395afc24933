/-! Finite maps as lists of entries with distinct keys. -/

namespace ResumableUpload

structure Table (κ α : Type) where
  entries : List (κ × α)
  nodup : (entries.map (·.1)).Nodup
deriving DecidableEq, Repr

namespace Table

variable {κ α : Type}

def empty : Table κ α := ⟨[], .nil⟩

instance : EmptyCollection (Table κ α) := ⟨empty⟩

variable [DecidableEq κ]

def get? (t : Table κ α) (k : κ) : Option α := (t.entries.find? (·.1 = k)).map (·.2)

def erase (t : Table κ α) (k : κ) : Table κ α :=
  ⟨t.entries.filter (·.1 ≠ k), t.nodup.sublist (List.filter_sublist.map _)⟩

theorem not_mem_erase (t : Table κ α) (k : κ) : k ∉ (t.erase k).entries.map (·.1) := by
  simp [erase]

def insert (t : Table κ α) (k : κ) (a : α) : Table κ α :=
  ⟨(t.erase k).entries ++ [(k, a)], by
    rw [List.map_append, List.nodup_append]
    refine ⟨(t.erase k).nodup, by simp, ?_⟩
    rintro k₁ h₁ k₂ h₂ rfl
    simp only [List.map_cons, List.map_nil, List.mem_singleton] at h₂
    subst h₂
    exact t.not_mem_erase k₁ h₁⟩

def ofList (entries : List (κ × α)) : Table κ α := entries.foldl (fun t e => t.insert e.1 e.2) ∅

theorem get?_erase (t : Table κ α) (k k' : κ) :
    (t.erase k).get? k' = if k' = k then none else t.get? k' := by
  simp only [get?, erase, List.find?_filter]
  split
  · next h =>
    subst h
    simp only [Option.map_eq_none_iff, List.find?_eq_none]
    intro entry _
    simp
  · next h =>
    congr 2
    funext entry
    simp only [decide_not, Bool.decide_and, Bool.and_eq_right_iff_imp,
      decide_eq_true_eq, Bool.not_eq_eq_eq_not, Bool.not_true, decide_eq_false_iff_not]
    intro heq
    rw [heq]
    exact h

theorem get?_insert (t : Table κ α) (k k' : κ) (a : α) :
    (t.insert k a).get? k' = if k' = k then some a else t.get? k' := by
  have he := get?_erase t k k'
  simp only [get?] at he
  simp only [get?, insert, List.find?_append, Option.map_or, he]
  by_cases h : k' = k
  · subst h
    simp
  · have hk : ¬ k = k' := fun hk => h hk.symm
    simp [h, hk]

end Table

end ResumableUpload
