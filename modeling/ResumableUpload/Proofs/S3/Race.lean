import ResumableUpload.Proofs.S3.Mirror

/-! Calls that store the chunks of one file on S3 at the same time. Their requests are answered one by one in any
order. -/

namespace ResumableUpload.S3

/-- What is left of each call, and the bucket that they share. -/
structure Race where
  bucket : Bucket
  calls : List (Exchange (Except StorageError PartReceipt))

def Deposit.Seals (d : Deposit) (body : Bytes) : Prop := d.chunk.body d.payload d.key = .ok body

structure Fleet (path : String) (deposits : List Deposit) : Prop where
  path : ∀ {i : Nat} {d : Deposit}, deposits[i]? = some d → d.path = path
  current : ∀ {i : Nat} {d : Deposit}, deposits[i]? = some d → d.chunk.current = i + 1
  total : ∀ {i : Nat} {d : Deposit}, deposits[i]? = some d → d.chunk.total = deposits.length

namespace Race

def start (s : S3Storage) (pages : Nat) (deposits : List Deposit) (b : Bucket) : Race :=
  ⟨b, deposits.map (·.exchange s pages)⟩

inductive Step (p : Provider) (t : Race) : Race → Prop
  | answer {i : Nat} {q : Request} {next} : t.calls[i]? = some (.ask q next) →
      Step p t ⟨(p.respond q t.bucket).2, t.calls.set i (next (p.respond q t.bucket).1)⟩

structure Stands (s : S3Storage) (pages : Nat) (deposits : List Deposit) (t : Race) (stage : Nat → Stage) : Prop where
  length : t.calls.length = deposits.length
  leads : ∀ {i : Nat} {d : Deposit} {x}, deposits[i]? = some d → t.calls[i]? = some x →
    Leads s pages d Returned (stage i) x

variable {s : S3Storage} {pages : Nat} {deposits : List Deposit} {b : Bucket} {t t' : Race} {stage : Nat → Stage}
  {p : Provider} {path : String}

lemma stands_start (hs : s.Usable) (hpath : path ≠ "") (hf : Fleet path deposits) :
    (start s pages deposits b).Stands s pages deposits fun i => (deposits[i]?.map Stage.start).getD .find where
  length := List.length_map _
  leads := by
    intro i d x hd hx
    rw [start, List.getElem?_map, hd] at hx
    cases hx
    rw [hd]
    exact exchange_leads hs (hf.path hd ▸ hpath)

def advance (p : Provider) (s : S3Storage) (pages : Nat) (deposits : List Deposit) (scene : (Nat → Stage) × Bucket)
    (i : Nat) : (Nat → Stage) × Bucket :=
  match deposits[i]? with
  | none => scene
  | some d =>
    match (scene.1 i).question s d with
    | none => scene
    | some q => (Function.update scene.1 i ((scene.1 i).after pages d q (p.respond q scene.2).1), (p.respond q scene.2).2)

lemma advance_find {i : Nat} {d : Deposit} {u : Multipart} {body : Bytes} (hd : deposits[i]? = some d)
    (hs : stage i = .find) (hu : b.first? d.path = some u) (hbody : d.Seals body) :
    advance p s pages deposits (stage, b) i = (Function.update stage i (.upload (p.name u.number) body), b) := by
  have hentered : Stage.found d (p.listing b d.path) = .upload (p.name u.number) body := by
    rw [Stage.found, p.chosenUpload_listing, hu]
    change Stage.entered d (p.name u.number) = _
    rw [Stage.entered, hbody]
    exact if_neg (p.name_ne_empty _)
  rw [advance, hd]
  dsimp only
  rw [hs]
  exact congrArg (fun st => (Function.update stage i st, b)) hentered

lemma advance_complete {i : Nat} {d : Deposit} {u : Multipart} (hd : deposits[i]? = some d)
    (hs : stage i = .complete (p.name u.number) (u.parts.entries.map p.listed))
    (hu : p.upload? b d.path (p.name u.number) = some u)
    (hlarge : ∀ e ∈ u.parts.entries.dropLast, minChunkSize ≤ e.2.size) : ∃ etag o,
      advance p s pages deposits (stage, b) i =
        (Function.update stage i (.finished (some (p.name u.number)) (.ok ⟨true, etag⟩)), b.finish u.number d.path o) := by
  have hcompose := Provider.compose_of_large (p := p) hlarge
  rw [advance, hd]
  dsimp only
  rw [hs]
  simp only [Stage.question, Provider.respond, hu, Provider.mergeSort_listed, hcompose, Stage.after]
  exact ⟨_, _, rfl⟩

lemma Stands.answer {i : Nat} {d : Deposit} {q : Request} {next} (h : t.Stands s pages deposits stage)
    (hi : t.calls[i]? = some (.ask q next)) (hd : deposits[i]? = some d) (a : q.Answer) (b : Bucket) :
    (stage i).question s d = some q ∧ Stands s pages deposits ⟨b, t.calls.set i (next a)⟩
      (Function.update stage i ((stage i).after pages d q a)) := by
  cases h.leads hd hi with
  | ask hq hnext =>
    refine ⟨hq, (List.length_set ..).trans h.length, fun {j d' x} hd' hx => ?_⟩
    by_cases hj : j = i
    · subst j
      obtain rfl : d = d' := Option.some.inj (hd.symm.trans hd')
      rw [List.getElem?_set_self (List.getElem?_eq_some_iff.mp hi).1] at hx
      cases hx
      rw [Function.update_self]
      exact hnext a
    · rw [List.getElem?_set_ne (Ne.symm hj)] at hx
      rw [Function.update_of_ne hj]
      exact h.leads hd' hx

lemma Stands.step (h : t.Stands s pages deposits stage) (ht : Step p t t') : ∃ i d stage', deposits[i]? = some d ∧
    Turn p pages d (stage i) t.bucket stage' t'.bucket ∧
      t'.Stands s pages deposits (Function.update stage i stage') := by
  cases ht with
  | @answer i q next hi =>
    have hlt : i < deposits.length := by
      rw [← h.length]
      exact (List.getElem?_eq_some_iff.mp hi).1
    have hd : deposits[i]? = some deposits[i] := List.getElem?_eq_getElem hlt
    obtain ⟨hq, hstands⟩ := h.answer hi hd (p.respond q t.bucket).1 (p.respond q t.bucket).2
    exact ⟨i, _, _, hd, turn_of_respond p t.bucket hq, hstands⟩

lemma Stands.advanced (h : t.Stands s pages deposits stage) (i : Nat) :
    ∃ t', Relation.ReflTransGen (Step p) t t' ∧ t'.bucket = (advance p s pages deposits (stage, t.bucket) i).2 ∧
      t'.Stands s pages deposits (advance p s pages deposits (stage, t.bucket) i).1 := by
  rw [advance]
  cases hd : deposits[i]? with
  | none => exact ⟨t, .refl, rfl, h⟩
  | some d =>
    have hlt : i < t.calls.length := by
      rw [h.length]
      exact (List.getElem?_eq_some_iff.mp hd).1
    have hcall : t.calls[i]? = some t.calls[i] := List.getElem?_eq_getElem hlt
    have hleads := h.leads hd hcall
    generalize t.calls[i] = x at hcall hleads
    cases hleads with
    | done hr =>
      obtain ⟨v, hv⟩ := hr
      dsimp only
      rw [hv]
      exact ⟨t, .refl, rfl, h⟩
    | @ask _ q next hq _ =>
      dsimp only
      rw [hq]
      exact ⟨_, .single (.answer hcall), rfl, (h.answer hcall hd _ _).2⟩

lemma Stands.played (h : t.Stands s pages deposits stage) (order : List Nat) :
    ∃ t', Relation.ReflTransGen (Step p) t t' ∧
      t'.bucket = (order.foldl (advance p s pages deposits) (stage, t.bucket)).2 ∧
      t'.Stands s pages deposits (order.foldl (advance p s pages deposits) (stage, t.bucket)).1 := by
  induction order generalizing t stage with
  | nil => exact ⟨t, .refl, rfl, h⟩
  | cons i rest ih =>
    obtain ⟨t₁, hrun, hbucket, hstands⟩ := h.advanced (p := p) i
    obtain ⟨t₂, hrest, hend⟩ := ih hstands
    rw [hbucket] at hend
    exact ⟨t₂, hrun.trans hrest, hend⟩

lemma Stands.finished {i : Nat} {r : Except StorageError PartReceipt} (h : t.Stands s pages deposits stage)
    (hi : t.calls[i]? = some (.done r)) : i < deposits.length ∧ ∃ uploadId, stage i = .finished uploadId r := by
  have hlt : i < deposits.length := h.length ▸ (List.getElem?_eq_some_iff.mp hi).1
  cases h.leads (List.getElem?_eq_getElem hlt) hi with
  | done hr => exact ⟨hlt, hr⟩

lemma Stands.result {i : Nat} {uploadId : Option String} {r : Except StorageError PartReceipt}
    (h : t.Stands s pages deposits stage) (hi : i < t.calls.length) (hv : stage i = .finished uploadId r) :
    t.calls[i] = .done r := by
  have hlt : i < deposits.length := h.length ▸ hi
  have hleads := h.leads (List.getElem?_eq_getElem hlt) (List.getElem?_eq_getElem hi)
  rw [hv] at hleads
  generalize t.calls[i] = x at hleads
  cases hleads with
  | done hr =>
    obtain ⟨w, hw⟩ := hr
    cases hw
    rfl
  | ask hq _ => cases hq

lemma Stands.answered {P : PartReceipt → Prop} (h : t.Stands s pages deposits stage)
    (hstage : ∀ i < deposits.length, ∃ r, (stage i).receipt? = some r ∧ P r) {x} (hx : x ∈ t.calls) :
    ∃ r, x = .done (.ok r) ∧ P r := by
  obtain ⟨i, hi, rfl⟩ := List.getElem_of_mem hx
  obtain ⟨r, hr, hreceipt⟩ := hstage i (h.length ▸ hi)
  obtain ⟨_, hv⟩ := Stage.exists_finished hr
  exact ⟨r, h.result hi hv, hreceipt⟩

variable (pages) in
lemma exists_played (hs : s.Usable) (hpath : path ≠ "") (hf : Fleet path deposits)
    (hfind : ∀ d ∈ deposits, Stage.start d = .find) (order : List Nat) :
    let scene := order.foldl (advance p s pages deposits) (fun _ => .find, b)
    ∃ t, Relation.ReflTransGen (Step p) (start s pages deposits b) t ∧ t.bucket = scene.2 ∧
      t.Stands s pages deposits scene.1 := by
  have hstart : (fun i : Nat => (deposits[i]?.map Stage.start).getD .find) = fun _ => .find := by
    funext i
    cases hd : deposits[i]? with
    | none => rfl
    | some d => exact hfind d (List.mem_of_getElem? hd)
  have h : (start s pages deposits b).Stands s pages deposits fun _ => .find := hstart ▸ stands_start hs hpath hf
  exact h.played order

end Race

end ResumableUpload.S3
