import ResumableUpload.Proofs.S3.Race

/-! What holds of calls that store the chunks of one file at the same time, as long as none of them fails. Every part of
an open upload comes from the call that names the upload, and an upload is closed only with the parts of all calls. -/

namespace ResumableUpload

namespace Parts

variable {p : Parts} {n : Nat} {body : Bytes}

lemma sublist_put {l : List (Nat × Bytes)} (h : ∀ e ∈ l, e.1 ≠ n) : l.Sublist (put n body l) := by
  induction l with
  | nil => exact List.nil_sublist _
  | cons e rest ih =>
    obtain ⟨he, hrest⟩ := List.forall_mem_cons.mp h
    rw [put]
    split
    · exact List.sublist_cons_self _ _
    · rw [if_neg (Ne.symm he)]
      exact (ih hrest).cons_cons e

lemma sublist_insert (h : n ∉ p.numbers) : p.entries.Sublist (p.insert n body).entries :=
  sublist_put fun e he hn => h (mem_numbers.mpr ⟨e.2, hn ▸ he⟩)

end Parts

namespace S3

lemma Provider.preceding_sublist {parts more : Parts} (h : parts.entries.Sublist more.entries)
    (marker : Option String) : (preceding marker parts).Sublist (preceding marker more) := by
  cases marker with
  | none => exact .refl _
  | some marker => exact h.filter _

namespace Stage

def uploadId? : Stage → Option String
  | upload u _ | list u .. | complete u _ => some u
  | finished u _ => u
  | find | create => none

def Stored (uploadId : String) : Stage → Prop
  | list u .. | complete u _ | finished (some u) _ => u = uploadId
  | _ => False

def Sees (p : Provider) (total : Nat) (u : Multipart) : Stage → Prop
  | list uploadId _ _ marker seen => uploadId = p.name u.number →
      seen.Sublist ((Provider.preceding marker u.parts).map p.listed)
  | complete uploadId parts => uploadId = p.name u.number →
      parts.Sublist (u.parts.entries.map p.listed) ∧ total ≤ parts.length
  | _ => True

def Watches (p : Provider) (u : Multipart) : Stage → Prop
  | list uploadId _ _ marker seen => uploadId = p.name u.number ∧
      seen = (Provider.preceding marker u.parts).map p.listed
  | complete uploadId _ => uploadId = p.name u.number
  | _ => False

def Failed : Stage → Prop
  | finished _ (.error _) => True
  | _ => False

variable {p : Provider} {stage : Stage} {uploadId : String} {u : Multipart} {total : Nat}

lemma Stored.uploadId?_eq (h : stage.Stored uploadId) : stage.uploadId? = some uploadId := by
  cases stage with
  | list | complete => exact congrArg some h
  | finished v _ =>
    cases v with
    | none => exact h.elim
    | some v => exact congrArg some h
  | _ => exact h.elim

lemma Watches.uploadId?_eq (h : stage.Watches p u) : stage.uploadId? = some (p.name u.number) := by
  cases stage with
  | list => exact congrArg some h.1
  | complete => exact congrArg some h
  | _ => exact h.elim

lemma sees_of_ne (h : stage.uploadId? ≠ some (p.name u.number)) : stage.Sees p total u := by
  cases stage with
  | list | complete => exact fun he => absurd (congrArg some he) h
  | _ => trivial

lemma Sees.mono {v : Multipart} (h : stage.Sees p total u) (hn : v.number = u.number)
    (hs : u.parts.entries.Sublist v.parts.entries) : stage.Sees p total v := by
  cases stage with
  | list uploadId tag left marker seen =>
    intro hid
    exact (h (hn ▸ hid)).trans ((Provider.preceding_sublist hs marker).map _)
  | complete uploadId parts =>
    intro hid
    exact ⟨(h (hn ▸ hid)).1.trans (hs.map _), (h (hn ▸ hid)).2⟩
  | _ => trivial

end Stage

lemma Bucket.mem_store {b : Bucket} {u v : Multipart} {n : Nat} {body : Bytes} (hu : u ∈ b.uploads)
    (hv : v ∈ (b.store u.number n body).uploads) :
    v = { u with parts := u.parts.insert n body } ∨ v ∈ b.uploads ∧ v.number ≠ u.number := by
  obtain ⟨x, hx, rfl⟩ := List.mem_map.mp hv
  by_cases hn : x.number = u.number
  · obtain rfl := Bucket.eq_of_number hx hu hn
    exact .inl (if_pos rfl)
  · rw [Multipart.take, if_neg hn]
    exact .inr ⟨hx, hn⟩

structure Local (p : Provider) (path : String) (since : Nat) (deposits : List Deposit) (i : Nat) (d : Deposit)
    (stage : Stage) (b : Bucket) : Prop where
  known : ∀ uploadId, stage.uploadId? = some uploadId → ∃ n, since ≤ n ∧ n < b.created ∧ uploadId = p.name n
  body : ∀ uploadId body, stage = .upload uploadId body → d.Seals body
  holds : ∀ u ∈ b.uploads, u.key = path → (i + 1 ∈ u.parts.numbers ↔ stage.Stored (p.name u.number))
  sees : ∀ u ∈ b.uploads, u.key = path → stage.Sees p deposits.length u
  ended : ∀ uploadId r, stage = .finished uploadId (.ok r) → ∃ n, uploadId = some (p.name n) ∧
    (r.complete = true → ∀ u ∈ b.uploads, u.number ≠ n)

namespace Local

variable {p : Provider} {path : String} {since n i : Nat} {deposits : List Deposit} {d : Deposit} {stage : Stage}
  {b : Bucket} {u : Multipart} {body : Bytes} {o : StoredObject}

lemma ne_created (h : Local p path since deposits i d stage b) : stage.uploadId? ≠ some (p.name b.created) := by
  intro hid
  obtain ⟨n, -, hlt, hn⟩ := h.known _ hid
  exact hlt.ne' (p.name_injective hn)

lemma create (h : Local p path since deposits i d stage b) : Local p path since deposits i d stage (b.create path) where
  known := by
    intro uploadId hid
    obtain ⟨n, hsince, hlt, hn⟩ := h.known uploadId hid
    exact ⟨n, hsince, Nat.lt_succ_of_lt hlt, hn⟩
  body := h.body
  holds := by
    intro u hu hk
    rcases List.mem_append.mp hu with hu | hu
    · exact h.holds u hu hk
    · obtain rfl := List.mem_singleton.mp hu
      exact iff_of_false List.not_mem_nil fun hs => h.ne_created hs.uploadId?_eq
  sees := by
    intro u hu hk
    rcases List.mem_append.mp hu with hu | hu
    · exact h.sees u hu hk
    · obtain rfl := List.mem_singleton.mp hu
      exact Stage.sees_of_ne h.ne_created
  ended := by
    intro uploadId r hr
    obtain ⟨n, rfl, hclosed⟩ := h.ended uploadId r hr
    refine ⟨n, rfl, fun hc u hu => ?_⟩
    rcases List.mem_append.mp hu with hu | hu
    · exact hclosed hc u hu
    · obtain rfl := List.mem_singleton.mp hu
      rintro rfl
      exact h.ne_created (by rw [hr]; rfl)

lemma finish (h : Local p path since deposits i d stage b) (number : Nat) :
    Local p path since deposits i d stage (b.finish number path o) where
  known := h.known
  body := h.body
  holds := fun u hu => h.holds u (List.mem_of_mem_filter hu)
  sees := fun u hu => h.sees u (List.mem_of_mem_filter hu)
  ended := by
    intro uploadId r hr
    obtain ⟨n, hn, hclosed⟩ := h.ended uploadId r hr
    exact ⟨n, hn, fun hc u hu => hclosed hc u (List.mem_of_mem_filter hu)⟩

lemma store (h : Local p path since deposits i d stage b) (hu : u ∈ b.uploads) (hi : i + 1 ≠ n)
    (hn : n ∉ u.parts.numbers) : Local p path since deposits i d stage (b.store u.number n body) where
  known := h.known
  body := h.body
  holds := by
    intro v hv hk
    rcases Bucket.mem_store hu hv with rfl | ⟨hv, -⟩
    · rw [Parts.mem_numbers_insert, or_iff_right hi]
      exact h.holds u hu hk
    · exact h.holds v hv hk
  sees := by
    intro v hv hk
    rcases Bucket.mem_store hu hv with rfl | ⟨hv, -⟩
    · exact (h.sees u hu hk).mono rfl (Parts.sublist_insert hn)
    · exact h.sees v hv hk
  ended := by
    intro uploadId r hr
    obtain ⟨n, hn, hclosed⟩ := h.ended uploadId r hr
    refine ⟨n, hn, fun hc v hv => ?_⟩
    obtain ⟨x, hx, rfl⟩ := List.mem_map.mp hv
    rw [Multipart.number_take]
    exact hclosed hc x hx

lemma enter (h : Local p path since deposits i d stage b) (hnone : stage.uploadId? = none) (hu : u ∈ b.uploads)
    (hsince : since ≤ u.number) (hbody : d.Seals body) :
    Local p path since deposits i d (.upload (p.name u.number) body) b where
  known := by
    rintro uploadId ⟨⟩
    exact ⟨u.number, hsince, b.below u hu, rfl⟩
  body := by
    rintro uploadId body ⟨⟩
    exact hbody
  holds := fun v hv hk => (h.holds v hv hk).trans (iff_of_false (fun hs => nomatch hnone.symm.trans hs.uploadId?_eq) id)
  sees := fun _ _ _ => trivial
  ended := nofun

lemma proceed {stage' : Stage} {uploadId : String} (h : Local p path since deposits i d stage b)
    (hs : stage.Stored uploadId) (hs' : stage'.Stored uploadId)
    (hsees : ∀ u ∈ b.uploads, u.key = path → stage'.Sees p deposits.length u)
    (hended : ∀ v r, stage' = .finished v (.ok r) → r.complete = true →
      ∀ u ∈ b.uploads, uploadId ≠ p.name u.number) : Local p path since deposits i d stage' b := by
  have hid := hs.uploadId?_eq
  have hid' := hs'.uploadId?_eq
  have hiff : ∀ v, stage.Stored v ↔ stage'.Stored v := by
    intro v
    constructor
    · intro hv
      rwa [← Option.some.inj (hid.symm.trans hv.uploadId?_eq)]
    · intro hv
      rwa [← Option.some.inj (hid'.symm.trans hv.uploadId?_eq)]
  refine ⟨fun v hv => h.known v (hid.trans (hid'.symm.trans hv)), ?_, fun u hu hk => (h.holds u hu hk).trans (hiff _),
    hsees, ?_⟩
  · rintro v body rfl
    exact hs'.elim
  · rintro v r rfl
    obtain ⟨n, -, -, rfl⟩ := h.known uploadId hid
    refine ⟨n, hid', fun hc u hu hn => hended v r rfl hc u hu ?_⟩
    rw [hn]

end Local

end S3

end ResumableUpload
