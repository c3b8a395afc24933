import ResumableUpload.Store.Parts
import Mathlib.Data.List.Sort

/-! The numbers of the parts of an object. As many parts as a file has chunks are all of its chunks, unless
some part has a number beyond them. -/

namespace ResumableUpload

def Bytes.concat (l : List Bytes) : Bytes := l.foldl (· ++ ·) ByteArray.empty

namespace Parts

def numbers (p : Parts) : List Nat := p.entries.map (·.1)

def bodies (p : Parts) : List Bytes := p.entries.map (·.2)

@[simp] lemma numbers_empty : (∅ : Parts).numbers = [] := rfl

@[simp] lemma entries_empty : (∅ : Parts).entries = [] := rfl

@[simp] lemma length_numbers (p : Parts) : p.numbers.length = p.count := List.length_map _

@[simp] lemma length_bodies (p : Parts) : p.bodies.length = p.count := List.length_map _

lemma assembled_eq (p : Parts) : p.assembled = Bytes.concat p.bodies := by
  rw [assembled, Bytes.concat, bodies, List.foldl_map]

lemma mem_numbers {p : Parts} {n : Nat} : n ∈ p.numbers ↔ ∃ body, (n, body) ∈ p.entries := by
  simp [numbers]

lemma numbers_ascending (p : Parts) : p.numbers.Pairwise (· < ·) := List.pairwise_map.mpr p.ascending

lemma mem_put_self (n : Nat) (body : Bytes) (l : List (Nat × Bytes)) : (n, body) ∈ put n body l := by
  induction l with
  | nil => simp [put]
  | cons head rest ih =>
    simp only [put]
    split
    · exact List.mem_cons_self
    · split
      · exact List.mem_cons_self
      · exact List.mem_cons_of_mem _ ih

lemma mem_put_of_ne {n : Nat} {body : Bytes} {l : List (Nat × Bytes)} {e : Nat × Bytes} (he : e ∈ l)
    (hn : e.1 ≠ n) : e ∈ put n body l := by
  induction l with
  | nil => cases he
  | cons head rest ih =>
    simp only [put]
    split
    · exact List.mem_cons_of_mem _ he
    · rcases List.mem_cons.mp he with rfl | he
      · rw [if_neg (Ne.symm hn)]
        exact List.mem_cons_self
      · split
        · exact List.mem_cons_of_mem _ he
        · exact List.mem_cons_of_mem _ (ih he)

lemma mem_insert {p : Parts} {n : Nat} {body : Bytes} {e : Nat × Bytes}
    (he : e ∈ (p.insert n body).entries) : e = (n, body) ∨ e ∈ p.entries := mem_put he

lemma mem_numbers_insert {p : Parts} {n m : Nat} {body : Bytes} :
    m ∈ (p.insert n body).numbers ↔ m = n ∨ m ∈ p.numbers := by
  simp only [mem_numbers]
  constructor
  · rintro ⟨b, hb⟩
    rcases mem_insert hb with he | he
    · exact .inl (congrArg Prod.fst he)
    · exact .inr ⟨b, he⟩
  · rintro (rfl | ⟨b, hb⟩)
    · exact ⟨body, mem_put_self m body p.entries⟩
    · by_cases hm : m = n
      · subst m
        exact ⟨body, mem_put_self n body p.entries⟩
      · exact ⟨b, mem_put_of_ne hb hm⟩

lemma find?_put (n m : Nat) (body : Bytes) (l : List (Nat × Bytes)) :
    (put n body l).find? (·.1 = m) = if m = n then some (n, body) else l.find? (·.1 = m) := by
  induction l with
  | nil =>
    rw [put, List.find?_singleton]
    simp [eq_comm]
  | cons e rest ih =>
    obtain ⟨k, b⟩ := e
    rw [put]
    split
    · by_cases hm : m = n
      · simp [hm]
      · simp [hm, Ne.symm hm]
    · split
      · next hk =>
        by_cases hm : m = n
        · simp [hm]
        · simp [hm, Ne.symm hm, ← hk]
      · next hk =>
        rw [List.find?_cons, List.find?_cons, ih]
        by_cases hm : m = n
        · simp [hm, Ne.symm hk]
        · simp [hm]

lemma get?_insert (p : Parts) (n m : Nat) (body : Bytes) :
    (p.insert n body).get? m = if m = n then some body else p.get? m := by
  rw [get?, insert, find?_put]
  split <;> rfl

lemma get?_of_mem {p : Parts} {n : Nat} {body : Bytes} (h : (n, body) ∈ p.entries) : p.get? n = some body := by
  cases hfind : p.entries.find? (·.1 = n) with
  | none => simpa using List.find?_eq_none.mp hfind _ h
  | some e =>
    have hn : e.1 = n := by simpa using List.find?_some hfind
    -- no two entries have one number
    have he := List.inj_on_of_nodup_map p.numbers_ascending.nodup (List.mem_of_find?_eq_some hfind) h hn
    rw [get?, hfind, he]
    rfl

lemma mem_numbers_iff {p : Parts} {n : Nat} : n ∈ p.numbers ↔ (p.get? n).isSome = true := by
  rw [mem_numbers]
  constructor
  · rintro ⟨body, h⟩
    rw [get?_of_mem h]
    rfl
  · intro h
    rw [get?, Option.isSome_map, List.find?_isSome] at h
    obtain ⟨⟨m, body⟩, he, hm⟩ := h
    exact ⟨body, by rwa [← of_decide_eq_true hm]⟩

lemma bodies_eq (p : Parts) : p.bodies = p.numbers.filterMap p.get? := by
  have hget : ∀ e ∈ p.entries, p.get? e.1 = some e.2 := fun e he => get?_of_mem he
  rw [numbers, List.filterMap_map, bodies, ← List.filterMap_eq_map]
  exact (List.filterMap_congr hget).symm

lemma numbers_eq_range {p : Parts} {total : Nat} (hc : total ≤ p.count)
    (hn : ∀ n ∈ p.numbers, 1 ≤ n ∧ n ≤ total) : p.numbers = List.range' 1 total := by
  have hsub : p.numbers ⊆ List.range' 1 total := by
    intro n h
    have hb := hn n h
    exact List.mem_range'_1.mpr ⟨hb.1, by omega⟩
  have hperm : p.numbers.Perm (List.range' 1 total) := by
    apply (List.subperm_of_subset p.numbers_ascending.nodup hsub).perm_of_length_le
    simpa using hc
  refine hperm.eq_of_pairwise ?_ p.numbers_ascending List.pairwise_lt_range'
  intro a b _ _ hab hba
  omega

lemma numbers_eq_range_iff {p : Parts} {total : Nat} (hc : total ≤ p.count) (hn : ∀ n ∈ p.numbers, 1 ≤ n) :
    p.numbers = List.range' 1 total ↔ ∀ n ∈ p.numbers, n ≤ total := by
  constructor
  · intro h n hm
    rw [h, List.mem_range'_1] at hm
    omega
  · intro h
    exact numbers_eq_range hc fun n hm => ⟨hn n hm, h n hm⟩

lemma count_insert_le (p : Parts) (n : Nat) (body : Bytes) : (p.insert n body).count ≤ p.count + 1 := by
  have hput : ∀ l : List (Nat × Bytes), (put n body l).length ≤ l.length + 1 := by
    intro l
    induction l with
    | nil => simp [put]
    | cons e l ih =>
      simp only [put]
      split
      · simp
      · split <;> simp [ih]
  exact hput p.entries

lemma le_count {p : Parts} {total : Nat} (h : ∀ i < total, i + 1 ∈ p.numbers) : total ≤ p.count := by
  have hsub : List.range' 1 total ⊆ p.numbers := by
    intro n hn
    have hb := List.mem_range'_1.mp hn
    obtain ⟨i, rfl⟩ : ∃ i, n = i + 1 := ⟨n - 1, by omega⟩
    exact h i (by omega)
  simpa using (List.subperm_of_subset List.nodup_range' hsub).length_le

lemma getElem_numbers {p : Parts} {total i : Nat} (h : p.numbers = List.range' 1 total) (hi : i < p.bodies.length) :
    (i + 1, p.bodies[i]) ∈ p.entries := by
  have hc : i < p.entries.length := by simpa [bodies] using hi
  have hn : p.entries[i].1 = i + 1 := by
    have hj : i < p.numbers.length := by simpa [numbers] using hc
    have hg : p.numbers[i] = i + 1 := by
      simp only [h, List.getElem_range']
      omega
    simpa [numbers] using hg
  have he : (i + 1, p.bodies[i]) = p.entries[i] := by
    simp only [bodies, List.getElem_map]
    exact Prod.ext hn.symm rfl
  rw [he]
  exact List.getElem_mem hc

end Parts

end ResumableUpload
