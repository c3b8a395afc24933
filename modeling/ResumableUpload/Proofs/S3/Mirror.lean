import ResumableUpload.Proofs.Cipher.Feedback
import ResumableUpload.Proofs.S3.Stage
import ResumableUpload.Proofs.Store.Holding

/-! The object store in memory mirrors the one on S3. A path has as many parts waiting in memory as its one open upload
has, and calls that come one after the other get the same answers from both. -/

namespace ResumableUpload

lemma Chunk.size_of_body {c : Chunk} {payload body : Bytes} {key : Option EncryptionKey}
    (h : c.body payload key = .ok body) : body.size = payload.size := by
  cases key with
  | none => rw [Except.ok.inj h]
  | some key => exact (Cipher.size_of_decryptPart (Cipher.decryptPart_of_encryptPart h)).symm

namespace Parts

variable {p : Parts} {total : Nat}

lemma count_le (h : ∀ e ∈ p.entries, 1 ≤ e.1 ∧ e.1 ≤ total) : p.count ≤ total := by
  have hsub : p.numbers ⊆ List.range' 1 total := by
    intro n hn
    obtain ⟨body, he⟩ := mem_numbers.mp hn
    have hb := h _ he
    exact List.mem_range'_1.mpr ⟨hb.1, by omega⟩
  simpa using (List.subperm_of_subset p.numbers_ascending.nodup hsub).length_le

lemma lt_of_mem_dropLast {e : Nat × Bytes} (h : ∀ e ∈ p.entries, e.1 ≤ total) (he : e ∈ p.entries.dropLast) :
    e.1 < total := by
  have hne : p.entries ≠ [] := List.ne_nil_of_mem (List.mem_of_mem_dropLast he)
  have hsorted := p.ascending
  rw [← List.dropLast_append_getLast hne] at hsorted
  have hlast := (List.pairwise_append.mp hsorted).2.2 e he _ (List.mem_singleton_self _)
  exact hlast.trans_le (h _ (List.getLast_mem hne))

end Parts

namespace ObjectStore

variable (m : ObjectStore) (path : String) (parts : Parts) (objects : Table String StoredObject)

def contentOf : Option Bytes := (m.objects.get? path).map (·.content)

lemma partsOf_insert_eq_update : (⟨m.pending.insert path parts, objects⟩ : ObjectStore).partsOf =
    Function.update m.partsOf path parts := by
  funext q
  rw [Function.update_apply]
  exact partsOf_insert m path q parts

lemma partsOf_erase_eq_update :
    (⟨m.pending.erase path, objects⟩ : ObjectStore).partsOf = Function.update m.partsOf path ∅ := by
  funext q
  rw [Function.update_apply]
  exact partsOf_erase m path q objects

lemma contentOf_insert (pending : Table String Parts) (o : StoredObject) :
    (⟨pending, m.objects.insert path o⟩ : ObjectStore).contentOf = Function.update m.contentOf path (some o.content) := by
  funext p
  simp only [contentOf, Table.get?_insert, Function.update_apply]
  split <;> rfl

end ObjectStore

namespace S3

namespace Bucket

variable {b : Bucket} {path key : String} {u v : Multipart} {n : Nat} {body : Bytes} {o : StoredObject}

def partsOf (b : Bucket) (path : String) : Parts := ((b.first? path).map (·.parts)).getD ∅

def contentOf (b : Bucket) (path : String) : Option Bytes := (b.objects.get? path).map (·.content)

def Alone (b : Bucket) : Prop := ∀ u ∈ b.uploads, ∀ v ∈ b.uploads, u.key = v.key → u = v

lemma of_first?_eq_some (h : b.first? path = some u) : u ∈ b.uploads ∧ u.key = path :=
  ⟨List.mem_of_find?_eq_some h, by simpa using List.find?_some h⟩

lemma Alone.first?_eq_some (h : b.Alone) (hu : u ∈ b.uploads) (hk : u.key = path) : b.first? path = some u :=
  find?_eq_some_of_unique hu (decide_eq_true hk) fun v hv hf =>
    h v hv u hu ((of_decide_eq_true hf).trans hk.symm)

lemma Alone.partsOf_eq (h : b.Alone) (hu : u ∈ b.uploads) (hk : u.key = path) : b.partsOf path = u.parts := by
  rw [partsOf, h.first?_eq_some hu hk]
  rfl

lemma not_key_of_first?_eq_none (h : b.first? path = none) : ∀ u ∈ b.uploads, u.key ≠ path := by
  intro u hu
  simpa using List.find?_eq_none.mp h u hu

lemma Alone.create (h : b.Alone) (hnone : b.first? key = none) : (b.create key).Alone := by
  have hkey := not_key_of_first?_eq_none hnone
  intro u hu v hv huv
  rcases List.mem_append.mp hu with hu | hu <;> rcases List.mem_append.mp hv with hv | hv
  · exact h u hu v hv huv
  · obtain rfl := List.mem_singleton.mp hv
    exact absurd huv (hkey u hu)
  · obtain rfl := List.mem_singleton.mp hu
    exact absurd huv.symm (hkey v hv)
  · rw [List.mem_singleton.mp hu, List.mem_singleton.mp hv]

lemma partsOf_create (hnone : b.first? key = none) : (b.create key).partsOf = b.partsOf := by
  funext p
  simp only [partsOf, first?, Bucket.create, List.find?_append]
  by_cases hp : p = key
  · subst hp
    have hfind : b.uploads.find? (·.key = p) = none := hnone
    rw [hfind]
    simp
  · have hkey : ¬ key = p := fun h => hp h.symm
    simp [hkey]

lemma Alone.store (h : b.Alone) (number : Nat) : (b.store number n body).Alone := by
  intro u hu v hv huv
  obtain ⟨x, hx, rfl⟩ := List.mem_map.mp hu
  obtain ⟨y, hy, rfl⟩ := List.mem_map.mp hv
  simp only [Multipart.key_take] at huv
  rw [h x hx y hy huv]

lemma Alone.partsOf_store (h : b.Alone) (hu : u ∈ b.uploads) (hk : u.key = path) :
    (b.store u.number n body).partsOf = Function.update b.partsOf path (u.parts.insert n body) := by
  funext p
  have hfirst : (b.store u.number n body).first? p = (b.first? p).map (·.take u.number n body) := by
    simp only [first?, Bucket.store, List.find?_map]
    congr 2
    funext x
    simp
  rw [partsOf, hfirst, Function.update_apply]
  split
  · next hp =>
    subst hp
    rw [h.first?_eq_some hu hk]
    simp [Multipart.take]
  · next hp =>
    rw [partsOf]
    cases hx : b.first? p with
    | none => rfl
    | some x =>
      obtain ⟨hx, hxp⟩ := of_first?_eq_some hx
      have hne : x.number ≠ u.number := fun hn => hp (hxp.symm.trans ((congrArg _ (eq_of_number hx hu hn)).trans hk))
      simp [Multipart.take, hne]

lemma Alone.finish (h : b.Alone) (number : Nat) : (b.finish number key o).Alone := by
  intro u hu v hv
  exact h u (List.mem_of_mem_filter hu) v (List.mem_of_mem_filter hv)

lemma Alone.partsOf_finish (h : b.Alone) (hu : u ∈ b.uploads) (hk : u.key = path) :
    (b.finish u.number path o).partsOf = Function.update b.partsOf path ∅ := by
  funext p
  rw [Function.update_apply]
  split
  · next hp =>
    subst hp
    have hnone : (b.finish u.number p o).first? p = none := by
      simp only [first?, Bucket.finish, List.find?_filter, List.find?_eq_none]
      intro x hx
      by_cases hxp : x.key = p
      · simp [h x hx u hu (hxp.trans hk.symm)]
      · simp [hxp]
    rw [partsOf, hnone]
    rfl
  · next hp =>
    have hfirst : (b.finish u.number path o).first? p = b.first? p := by
      simp only [first?, Bucket.finish, List.find?_filter]
      refine List.find?_congr fun x hx => ?_
      by_cases hxp : x.key = p
      · have hne : x.number ≠ u.number := fun hn => hp (hxp.symm.trans ((congrArg _ (eq_of_number hx hu hn)).trans hk))
        simp [hxp, hne]
      · simp [hxp]
    rw [partsOf, hfirst, partsOf]

lemma contentOf_finish (b : Bucket) (number : Nat) :
    (b.finish number path o).contentOf = Function.update b.contentOf path (some o.content) := by
  funext p
  simp only [contentOf, Bucket.finish, Table.get?_insert, Function.update_apply]
  split <;> rfl

/-- A bucket holds the parts that wait under each path in its one open upload, and the content of each object. The parts
have numbers up to the total of their path, and only the last may be small. -/
structure Mirrors (total : String → Nat) (parts : String → Parts) (contents : String → Option Bytes) (b : Bucket) :
    Prop where
  alone : b.Alone
  waiting : b.partsOf = parts
  stored : b.contentOf = contents
  range : ∀ path, ∀ e ∈ (parts path).entries, 1 ≤ e.1 ∧ e.1 ≤ total path
  sized : ∀ path, ∀ e ∈ (parts path).entries, e.1 < total path → minChunkSize ≤ e.2.size

namespace Mirrors

variable {total : String → Nat} {parts : String → Parts} {contents : String → Option Bytes}

lemma create (h : b.Mirrors total parts contents) (hnone : b.first? key = none) :
    (b.create key).Mirrors total parts contents :=
  { h with
    alone := h.alone.create hnone
    waiting := (partsOf_create hnone).trans h.waiting
    stored := h.stored }

lemma parts_eq (h : b.Mirrors total parts contents) (hu : u ∈ b.uploads) (hk : u.key = path) :
    u.parts = parts path := by
  rw [← h.waiting, h.alone.partsOf_eq hu hk]

lemma store (h : b.Mirrors total parts contents) (hu : u ∈ b.uploads) (hk : u.key = path)
    (hn : 1 ≤ n ∧ n ≤ total path) (hs : n < total path → minChunkSize ≤ body.size) :
    (b.store u.number n body).Mirrors total (Function.update parts path ((parts path).insert n body)) contents where
  alone := h.alone.store _
  waiting := by rw [h.alone.partsOf_store hu hk, h.waiting, h.parts_eq hu hk]
  stored := h.stored
  range := by
    refine (Function.forall_update_iff parts fun p ps => ∀ e ∈ ps.entries, 1 ≤ e.1 ∧ e.1 ≤ total p).mpr
      ⟨fun e he => ?_, fun p _ => h.range p⟩
    rcases Parts.mem_insert he with rfl | he
    · exact hn
    · exact h.range path e he
  sized := by
    refine (Function.forall_update_iff parts fun p ps => ∀ e ∈ ps.entries, e.1 < total p → minChunkSize ≤ e.2.size).mpr
      ⟨fun e he => ?_, fun p _ => h.sized p⟩
    rcases Parts.mem_insert he with rfl | he
    · exact hs
    · exact h.sized path e he

lemma finish (h : b.Mirrors total parts contents) (hu : u ∈ b.uploads) (hk : u.key = path) :
    (b.finish u.number path o).Mirrors total (Function.update parts path ∅)
      (Function.update contents path (some o.content)) where
  alone := h.alone.finish _
  waiting := by rw [h.alone.partsOf_finish hu hk, h.waiting]
  stored := by rw [contentOf_finish, h.stored]
  range := (Function.forall_update_iff parts fun p ps => ∀ e ∈ ps.entries, 1 ≤ e.1 ∧ e.1 ≤ total p).mpr
    ⟨List.forall_mem_nil _, fun p _ => h.range p⟩
  sized := (Function.forall_update_iff parts fun p ps => ∀ e ∈ ps.entries, e.1 < total p → minChunkSize ≤ e.2.size).mpr
    ⟨List.forall_mem_nil _, fun p _ => h.sized p⟩

lemma compose_eq (h : b.Mirrors total parts contents) (p : Provider) (hu : u ∈ b.uploads) :
    p.compose u.parts ((u.parts.entries.map p.listed).mergeSort S3Storage.numberedFirst) = .ok u.parts.assembled := by
  rw [Provider.mergeSort_listed]
  refine Provider.compose_of_large fun e he => ?_
  have hparts := h.parts_eq hu rfl
  rw [hparts] at he
  have hlt := Parts.lt_of_mem_dropLast (fun e he => (h.range _ e he).2) he
  exact h.sized _ e (List.mem_of_mem_dropLast he) hlt

end Mirrors

end Bucket

end S3

end ResumableUpload
