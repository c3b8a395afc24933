import ResumableUpload.Bytes

/-! The parts of an object that is not finished, by number. -/

namespace ResumableUpload

structure Parts where
  entries : List (Nat × Bytes)
  ascending : entries.Pairwise (·.1 < ·.1)

namespace Parts

def empty : Parts := ⟨[], .nil⟩

instance : EmptyCollection Parts := ⟨empty⟩

def put (n : Nat) (body : Bytes) : List (Nat × Bytes) → List (Nat × Bytes)
  -- a part goes to its place by number, instead of an earlier one of that number
  | [] => [(n, body)]
  | (m, b) :: rest =>
    if n < m then (n, body) :: (m, b) :: rest
    else if n = m then (n, body) :: rest
    else (m, b) :: put n body rest

theorem mem_put {n : Nat} {body : Bytes} {l : List (Nat × Bytes)} {e : Nat × Bytes}
    (h : e ∈ put n body l) : e = (n, body) ∨ e ∈ l := by
  induction l with
  | nil => simpa [put] using h
  | cons head rest ih =>
    obtain ⟨m, b⟩ := head
    simp only [put] at h
    split at h
    · simpa using h
    · split at h
      · rcases List.mem_cons.1 h with rfl | h
        · exact .inl rfl
        · exact .inr (List.mem_cons_of_mem _ h)
      · rcases List.mem_cons.1 h with rfl | h
        · exact .inr (List.mem_cons_self ..)
        · exact (ih h).imp_right (List.mem_cons_of_mem _)

theorem ascending_put (n : Nat) (body : Bytes) {l : List (Nat × Bytes)} (h : l.Pairwise (·.1 < ·.1)) :
    (put n body l).Pairwise (·.1 < ·.1) := by
  induction l with
  | nil => simp [put]
  | cons head rest ih =>
    obtain ⟨m, b⟩ := head
    obtain ⟨hhead, hrest⟩ := List.pairwise_cons.1 h
    simp only [put]
    split
    · next hlt =>
      refine List.pairwise_cons.2 ⟨fun e he => ?_, h⟩
      rcases List.mem_cons.1 he with rfl | he
      · exact hlt
      · exact Nat.lt_trans hlt (hhead e he)
    · split
      · next heq => exact List.pairwise_cons.2 ⟨fun e he => heq ▸ hhead e he, hrest⟩
      · refine List.pairwise_cons.2 ⟨fun e he => ?_, ih hrest⟩
        rcases mem_put he with rfl | he
        · show m < n
          omega
        · exact hhead e he

def insert (p : Parts) (n : Nat) (body : Bytes) : Parts :=
  ⟨put n body p.entries, ascending_put n body p.ascending⟩

def get? (p : Parts) (n : Nat) : Option Bytes := (p.entries.find? (·.1 = n)).map (·.2)

def count (p : Parts) : Nat := p.entries.length

def assembled (p : Parts) : Bytes := p.entries.foldl (fun b e => b ++ e.2) ByteArray.empty

end Parts

end ResumableUpload
