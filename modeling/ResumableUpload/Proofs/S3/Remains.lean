import ResumableUpload.Proofs.Dialogue
import ResumableUpload.Proofs.S3.Race

/-! What the storing of a chunk leaves on S3 when it fails, where every request may fail without an effect. The part is
stored before the parts are listed, and stays when the listing or the completion fails. -/

namespace ResumableUpload

namespace S3

namespace Bucket

variable {b : Bucket} {u : Multipart} {n : Nat} {body : Bytes}

def at? (b : Bucket) (key : String) (number : Nat) : Option Multipart :=
  b.uploads.find? fun u => u.key = key && u.number = number

def part? (b : Bucket) (place : String × Nat × Nat) : Option Bytes :=
  (b.at? place.1 place.2.1).bind (·.parts.get? place.2.2)

lemma at?_eq_some_iff {key : String} {number : Nat} :
    b.at? key number = some u ↔ u ∈ b.uploads ∧ u.key = key ∧ u.number = number := by
  constructor
  · intro h
    have hf := List.find?_some h
    simp only [Bool.and_eq_true, decide_eq_true_eq] at hf
    exact ⟨List.mem_of_find?_eq_some h, hf⟩
  · rintro ⟨hu, rfl, rfl⟩
    refine find?_eq_some_of_unique hu (by simp) fun v hv hf => eq_of_number hv hu ?_
    simp only [Bool.and_eq_true, decide_eq_true_eq] at hf
    exact hf.2

lemma part?_create (b : Bucket) (key : String) : (b.create key).part? = b.part? := by
  funext place
  simp only [part?, at?, Bucket.create, List.find?_append]
  cases hu : b.uploads.find? fun u => u.key = place.1 && u.number = place.2.1 with
  | some u => rfl
  | none =>
    rw [Option.none_or, List.find?_singleton]
    split <;> rfl

lemma at?_store (number : Nat) (key : String) (other : Nat) :
    (b.store number n body).at? key other = (b.at? key other).map (·.take number n body) := by
  simp only [at?, Bucket.store, List.find?_map]
  congr 2
  funext v
  simp

lemma part?_store (hu : u ∈ b.uploads) :
    (b.store u.number n body).part? = Function.update b.part? (u.key, u.number, n) (some body) := by
  funext ⟨key, number, m⟩
  rw [part?, at?_store, Function.update_apply]
  by_cases hplace : key = u.key ∧ number = u.number
  · obtain ⟨rfl, rfl⟩ := hplace
    have hself : b.at? u.key u.number = some u := at?_eq_some_iff.mpr ⟨hu, rfl, rfl⟩
    simp [part?, hself, Multipart.take, Parts.get?_insert]
  · have hne : ¬ (key, number, m) = (u.key, u.number, n) := by
      rintro ⟨⟩
      exact hplace ⟨rfl, rfl⟩
    rw [if_neg hne, part?]
    dsimp only
    cases hv : b.at? key number with
    | none => rfl
    | some v =>
      obtain ⟨hmem, rfl, rfl⟩ := at?_eq_some_iff.mp hv
      have hother : v.number ≠ u.number := by
        intro hn
        obtain rfl := eq_of_number hmem hu hn
        exact hplace ⟨rfl, rfl⟩
      simp [Multipart.take, hother]

end Bucket

inductive Provider.Gives (p : Provider) (b : Bucket) (q : Request) (a : q.Answer) : Bucket → Prop
  | served {b' : Bucket} : p.respond q b = (a, b') → Gives p b q a b'
  | failed {e : Failure} : a = q.failed e → Gives p b q a b

abbrev Line := Dialogue.Line Request.Answer

abbrev Yields {α : Type} (p : Provider) (x : Exchange α) (b : Bucket) (lines : List Line) (a : α) (b' : Bucket) : Prop :=
  Dialogue.Yields p.Gives x b lines a b'

def accepts : Line → Bool
  | ⟨.uploadPart .., .ok _⟩ => true
  | _ => false

structure Untouched (lines : List Line) (b b' : Bucket) : Prop where
  objects : b'.objects = b.objects
  parts : b'.part? = b.part?
  refused : ∀ x ∈ lines, accepts x = false

/-- What a call that fails leaves of its chunk: nothing, or a part that was accepted before something else failed. -/
inductive Remains (bucket : String) (p : Provider) (d : Deposit) (lines : List Line) (b b' : Bucket) : Prop
  | nothing : (∀ x ∈ lines, accepts x = false) → b'.part? = b.part? → Remains bucket p d lines b b'
  | part {number : Nat} {body : Bytes} {tag : Option String} : d.Seals body →
      ⟨.uploadPart bucket d.path (p.name number) d.chunk.current body, .ok tag⟩ ∈ lines →
      b'.part? = Function.update b.part? (d.path, number, d.chunk.current) (some body) → Remains bucket p d lines b b'

def Sent (p : Provider) (q : Request) (b : Bucket) (lines : List Line) (a : q.Answer) (b' : Bucket) : Prop :=
  lines = [] ∧ a = q.failed .construction ∧ b' = b ∨ lines = [⟨q, a⟩] ∧ p.Gives b q a b'

variable {s : S3Storage} {pages : Nat} {p : Provider} {α : Type} {lines front : List Line} {b b' b'' : Bucket} {q : Request}
  {path uploadId : String}

namespace Untouched

lemma refl (b : Bucket) : Untouched [] b b := ⟨rfl, rfl, List.forall_mem_nil _⟩

lemma append (h : Untouched front b b') (h' : Untouched lines b' b'') : Untouched (front ++ lines) b b'' :=
  ⟨h'.objects.trans h.objects, h'.parts.trans h.parts, List.forall_mem_append.mpr ⟨h.refused, h'.refused⟩⟩

lemma toRemains (h : Untouched lines b b') (bucket : String) (d : Deposit) : Remains bucket p d lines b b' :=
  .nothing h.refused h.parts

lemma append_remains {bucket : String} {d : Deposit} (h : Untouched front b b')
    (hr : Remains bucket p d lines b' b'') : Remains bucket p d (front ++ lines) b b'' := by
  cases hr with
  | nothing hrefused hparts =>
    exact .nothing (List.forall_mem_append.mpr ⟨h.refused, hrefused⟩) (hparts.trans h.parts)
  | part hd hmem hparts =>
    refine .part hd (List.mem_append_right _ hmem) ?_
    rw [hparts, h.parts]

end Untouched

def Request.Stores : Request → Prop
  | .uploadPart .. | .completeUpload .. => True
  | _ => False

namespace Sent

lemma of_yields {f : q.Answer → Exchange α} {r : α} (h : Yields p (s.send q >>= f) b lines r b') :
    ∃ a b₁ front behind, Sent p q b front a b₁ ∧ Yields p (f a) b₁ behind r b' ∧ lines = front ++ behind := by
  obtain ⟨a, b₁, front, behind, hsend, hrest, rfl⟩ := Dialogue.Yields.of_bind h
  refine ⟨a, b₁, front, behind, ?_, hrest, rfl⟩
  rw [S3Storage.send, S3.send] at hsend
  split at hsend
  · split at hsend
    · cases hsend with
      | ask hg hdone =>
        cases hdone
        exact .inr ⟨rfl, hg⟩
    · cases hsend
      exact .inl ⟨rfl, rfl, rfl⟩
  · cases hsend
    exact .inl ⟨rfl, rfl, rfl⟩

lemma untouched {a : q.Answer} (h : Sent p q b front a b') (hq : ¬ q.Stores) : Untouched front b b' := by
  rcases h with ⟨rfl, -, rfl⟩ | ⟨rfl, hg⟩
  · exact .refl b'
  · cases hg with
    | failed _ =>
      refine ⟨rfl, rfl, List.forall_mem_singleton.mpr ?_⟩
      cases q with
      | uploadPart => exact absurd trivial hq
      | _ => rfl
    | served hr =>
      cases q with
      | uploadPart | completeUpload => exact absurd trivial hq
      | createUpload bucket key type =>
        cases hr
        exact ⟨rfl, b.part?_create key, List.forall_mem_singleton.mpr rfl⟩
      | listParts bucket key uploadId marker =>
        rw [Provider.respond] at hr
        split at hr <;> cases hr <;> exact ⟨rfl, rfl, List.forall_mem_singleton.mpr rfl⟩
      | headObject bucket key =>
        rw [Provider.respond] at hr
        split at hr <;> cases hr <;> exact ⟨rfl, rfl, List.forall_mem_singleton.mpr rfl⟩
      | listUploads | headBucket =>
        cases hr
        exact ⟨rfl, rfl, List.forall_mem_singleton.mpr rfl⟩

lemma untouched_of_failed {e : Failure} (h : Sent p q b front (q.failed e) b') : Untouched front b b' := by
  by_cases hq : q.Stores
  · rcases h with ⟨rfl, -, rfl⟩ | ⟨rfl, hg⟩
    · exact .refl b'
    · cases hg with
      | failed _ => cases q <;> exact ⟨rfl, rfl, List.forall_mem_singleton.mpr rfl⟩
      | served hr =>
        cases q with
        | uploadPart bucket key uploadId n body =>
          rw [Provider.respond] at hr
          split at hr <;> cases hr
          exact ⟨rfl, rfl, List.forall_mem_singleton.mpr rfl⟩
        | completeUpload bucket key uploadId list =>
          rw [Provider.respond] at hr
          split at hr
          · cases hr
            exact ⟨rfl, rfl, List.forall_mem_singleton.mpr rfl⟩
          · split at hr <;> cases hr
            exact ⟨rfl, rfl, List.forall_mem_singleton.mpr rfl⟩
        | _ => exact hq.elim
  · exact h.untouched hq

lemma stored {bucket : String} {n : Nat} {body : Bytes} {tag : Option String}
    (h : Sent p (.uploadPart bucket path uploadId n body) b front (.ok tag) b') :
    front = [⟨.uploadPart bucket path uploadId n body, .ok tag⟩] ∧
      ∃ u, p.upload? b path uploadId = some u ∧ b' = b.store u.number n body := by
  rcases h with ⟨-, ⟨⟩, -⟩ | ⟨rfl, hg⟩
  refine ⟨rfl, ?_⟩
  cases hg with
  | failed ha => cases ha
  | served hr =>
    rw [Provider.respond] at hr
    split at hr <;> cases hr
    next u hu => exact ⟨u, hu, rfl⟩

end Sent

lemma untouched_findOrCreateUpload {type : String} {result : Except StorageError String}
    (h : Yields p (s.findOrCreateUpload path type) b lines result b') : Untouched lines b b' := by
  obtain ⟨a, b₁, front, behind, hsent, hrest, rfl⟩ := Sent.of_yields h
  refine (hsent.untouched id).append ?_
  cases a with
  | error e =>
    cases hrest
    exact .refl _
  | ok uploads =>
    dsimp only at hrest
    split at hrest
    · cases hrest
      exact .refl _
    · obtain ⟨a, b₂, front, behind, hsent, hrest, rfl⟩ := Sent.of_yields (q := .createUpload s.bucket path type) hrest
      refine (hsent.untouched id).append ?_
      rcases a with e | (_ | uploadId) <;> cases hrest <;> exact .refl _

lemma untouched_listParts {left : Nat} {marker : Option String} {result : Except StorageError (List ListedPart)}
    (h : Yields p (s.listParts path uploadId left marker) b lines result b') : Untouched lines b b' := by
  induction left generalizing b b' lines marker result with
  | zero =>
    cases h
    exact .refl _
  | succ left ih =>
    obtain ⟨a, b₁, front, behind, hsent, hrest, rfl⟩ := Sent.of_yields h
    refine (hsent.untouched id).append ?_
    cases a with
    | error e =>
      cases hrest
      exact .refl _
    | ok page =>
      dsimp only at hrest
      split at hrest
      · cases hrest
        exact .refl _
      · obtain ⟨more, b₂, front, behind, hmore, hrest, rfl⟩ := Dialogue.Yields.of_bind hrest
        refine (ih hmore).append ?_
        cases more <;> cases hrest <;> exact .refl _

lemma untouched_completeUpload {parts : List ListedPart} {e : StorageError}
    (h : Yields p (s.completeUpload path uploadId parts) b lines (.error e) b') : Untouched lines b b' := by
  obtain ⟨a, b₁, front, behind, hsent, hrest, rfl⟩ := Sent.of_yields h
  cases a with
  | error e =>
    cases hrest
    exact hsent.untouched_of_failed.append (.refl _)
  | ok etag => cases hrest

lemma remains_storePart {d : Deposit} {body : Bytes} {e : StorageError} (hd : d.Seals body)
    (h : Yields p (s.storePart pages d.path uploadId d.chunk body) b lines (.error e) b') :
    b'.objects = b.objects ∧ Remains s.bucket p d lines b b' := by
  obtain ⟨a, b₁, front, behind, hsent, hrest, rfl⟩ := Sent.of_yields h
  cases a with
  | error e =>
    cases hrest
    have h := hsent.untouched_of_failed.append (.refl _)
    exact ⟨h.objects, h.toRemains s.bucket d⟩
  | ok tag =>
    obtain ⟨rfl, u, hu, rfl⟩ := hsent.stored
    obtain ⟨hmem, hk, rfl⟩ := Provider.upload?_eq_some_iff.mp hu
    have hafter : Untouched behind (b.store u.number d.chunk.current body) b' := by
      cases tag with
      | none =>
        cases hrest
        exact .refl _
      | some tag =>
        obtain ⟨parts, b₂, front, behind, hlist, hrest, rfl⟩ := Dialogue.Yields.of_bind hrest
        refine (untouched_listParts hlist).append ?_
        cases parts with
        | error e =>
          cases hrest
          exact .refl _
        | ok parts =>
          dsimp only at hrest
          split at hrest
          · cases hrest
          · obtain ⟨etag, b₃, front, behind, hcomplete, hrest, rfl⟩ := Dialogue.Yields.of_bind hrest
            cases etag with
            | error e =>
              cases hrest
              exact (untouched_completeUpload hcomplete).append (.refl _)
            | ok etag => cases hrest
    refine ⟨hafter.objects, .part hd List.mem_cons_self ?_⟩
    rw [hafter.parts, Bucket.part?_store hmem, hk]

theorem remains_put {d : Deposit} {e : StorageError} (h : Yields p (d.exchange s pages) b lines (.error e) b') :
    b'.objects = b.objects ∧ Remains s.bucket p d lines b b' := by
  rw [Deposit.exchange, S3Storage.put] at h
  split at h
  · cases h
    exact ⟨rfl, .nothing (List.forall_mem_nil _) rfl⟩
  · cases h
    exact ⟨rfl, .nothing (List.forall_mem_nil _) rfl⟩
  · obtain ⟨uploadId, b₁, front, behind, hfind, hrest, rfl⟩ := Dialogue.Yields.of_bind h
    have hfound := untouched_findOrCreateUpload hfind
    cases uploadId with
    | error e =>
      cases hrest
      have h := hfound.append (.refl _)
      exact ⟨h.objects, h.toRemains s.bucket d⟩
    | ok uploadId =>
      dsimp only at hrest
      split at hrest
      · cases hrest
        have h := hfound.append (.refl _)
        exact ⟨h.objects, h.toRemains s.bucket d⟩
      · next body hbody =>
        obtain ⟨hobjects, hremains⟩ := remains_storePart hbody hrest
        exact ⟨hobjects.trans hfound.objects, hfound.append_remains hremains⟩

lemma untouched_head {result : Except StorageError ObjectHead} (h : Yields p (s.head path) b lines result b') :
    Untouched lines b b' := by
  obtain ⟨a, b₁, front, behind, hsent, hrest, rfl⟩ := Sent.of_yields h
  refine (hsent.untouched id).append ?_
  split at hrest <;> cases hrest <;> exact .refl _

end S3

end ResumableUpload
