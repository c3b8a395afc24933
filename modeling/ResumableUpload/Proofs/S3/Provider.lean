import ResumableUpload.Proofs.Store.Parts
import ResumableUpload.Proofs.Text.Decimal
import ResumableUpload.S3.Storage
import ResumableUpload.Store.Objects

/-! A multipart store that answers every request as the service documents it, and fails none. -/

namespace ResumableUpload.S3

lemma Instant.le_of_not_le {x y : Instant} (h : y.le x = false) : x.le y = true := by
  simp only [Instant.le, Bool.or_eq_true, Bool.or_eq_false_iff, Bool.and_eq_true, Bool.and_eq_false_iff,
    decide_eq_true_eq, decide_eq_false_iff_not] at *
  omega

structure Multipart where
  number : Nat
  key : String
  parts : Parts

/-- The open uploads in the order of their creation, the finished objects, and how many uploads were ever created. -/
structure Bucket where
  uploads : List Multipart
  objects : Table String StoredObject
  created : Nat
  ascending : uploads.Pairwise (·.number < ·.number)
  below : ∀ u ∈ uploads, u.number < created

namespace Bucket

def empty : Bucket := ⟨[], ∅, 0, .nil, List.forall_mem_nil _⟩

def first? (b : Bucket) (key : String) : Option Multipart := b.uploads.find? (·.key = key)

def create (b : Bucket) (key : String) : Bucket where
  uploads := b.uploads ++ [⟨b.created, key, ∅⟩]
  objects := b.objects
  created := b.created + 1
  ascending := by
    refine List.pairwise_append.mpr ⟨b.ascending, List.pairwise_singleton _ _, fun u hu v hv => ?_⟩
    obtain rfl := List.mem_singleton.mp hv
    exact b.below u hu
  below := by
    intro u hu
    rcases List.mem_append.mp hu with hu | hu
    · exact Nat.lt_succ_of_lt (b.below u hu)
    · obtain rfl := List.mem_singleton.mp hu
      exact Nat.lt_succ_self _

end Bucket

def Multipart.take (number n : Nat) (body : Bytes) (u : Multipart) : Multipart :=
  if u.number = number then { u with parts := u.parts.insert n body } else u

@[simp] lemma Multipart.number_take (number n : Nat) (body : Bytes) (u : Multipart) :
    (u.take number n body).number = u.number := by
  rw [Multipart.take]
  split <;> rfl

@[simp] lemma Multipart.key_take (number n : Nat) (body : Bytes) (u : Multipart) :
    (u.take number n body).key = u.key := by
  rw [Multipart.take]
  split <;> rfl

namespace Bucket

def store (b : Bucket) (number n : Nat) (body : Bytes) : Bucket where
  uploads := b.uploads.map (·.take number n body)
  objects := b.objects
  created := b.created
  ascending := by
    refine List.pairwise_map.mpr (b.ascending.imp fun h => ?_)
    simpa using h
  below := by
    intro u hu
    obtain ⟨v, hv, rfl⟩ := List.mem_map.mp hu
    simpa using b.below v hv

def finish (b : Bucket) (number : Nat) (key : String) (o : StoredObject) : Bucket where
  uploads := b.uploads.filter (·.number ≠ number)
  objects := b.objects.insert key o
  created := b.created
  ascending := b.ascending.filter _
  below := fun u hu => b.below u (List.mem_of_mem_filter hu)

end Bucket

/-- What is left to a service: how it names and dates its uploads, tags what it stores and arranges its listings. -/
structure Provider where
  name : Nat → String
  time : Nat → Instant
  partTag : Bytes → String
  objectTag : Bytes → Nat → String
  arrange : List OpenUpload → List OpenUpload
  pageSize : Nat
  name_injective : Function.Injective name
  name_ne_empty : ∀ n, name n ≠ ""
  later : ∀ m n, m < n → (time n).le (time m) = false
  arrange_perm : ∀ l, (arrange l).Perm l
  pageSize_pos : 0 < pageSize

namespace Provider

variable (p : Provider)

def opened (u : Multipart) : OpenUpload := ⟨some u.key, some (p.name u.number), some (p.time u.number)⟩

def listed (e : Nat × Bytes) : ListedPart := ⟨some e.1, some (p.partTag e.2)⟩

def listing (b : Bucket) (start : String) : List OpenUpload :=
  p.arrange ((b.uploads.filter fun u => start.toList.isPrefixOf u.key.toList).map p.opened)

def upload? (b : Bucket) (key uploadId : String) : Option Multipart :=
  b.uploads.find? fun u => u.key = key && p.name u.number = uploadId

def following (marker : Option String) (parts : Parts) : List (Nat × Bytes) :=
  match marker with
  | none => parts.entries
  | some marker => parts.entries.filter (Text.Decimal.value marker.toList < ·.1)

def page (parts : Parts) (marker : Option String) : PartPage :=
  let rest := following marker parts
  let shown := rest.take p.pageSize
  ⟨shown.map p.listed, some (p.pageSize < rest.length), shown.getLast?.map fun e => toString e.1⟩

def compose (parts : Parts) (list : List ListedPart) : Except Failure Bytes :=
  match list.mapM fun l => parts.entries.find? (p.listed · = l) with
  | none => .error (.service (some "InvalidPart"))
  | some chosen =>
    if ¬ chosen.Pairwise (·.1 < ·.1) then .error (.service (some "InvalidPartOrder"))
    else if chosen.dropLast.any (·.2.size < minChunkSize) then .error (.service (some "EntityTooSmall"))
    else .ok (Bytes.concat (chosen.map (·.2)))

def noSuchUpload : Failure := .service (some "NoSuchUpload")

def respond : (q : Request) → Bucket → q.Answer × Bucket
  | .listUploads _ start, b => (.ok (p.listing b start), b)
  | .createUpload _ key _, b => (.ok (some (p.name b.created)), b.create key)
  | .uploadPart _ key uploadId n body, b =>
    match p.upload? b key uploadId with
    | none => (.error noSuchUpload, b)
    | some u => (.ok (some (p.partTag body)), b.store u.number n body)
  | .listParts _ key uploadId marker, b =>
    match p.upload? b key uploadId with
    | none => (.error noSuchUpload, b)
    | some u => (.ok (p.page u.parts marker), b)
  | .completeUpload _ key uploadId list, b =>
    match p.upload? b key uploadId with
    | none => (.error noSuchUpload, b)
    | some u =>
      match p.compose u.parts list with
      | .error e => (.error e, b)
      | .ok content =>
        let etag := p.objectTag content list.length
        (.ok (some etag), b.finish u.number key ⟨content, etag⟩)
  | .headObject _ key, b =>
    match b.objects.get? key with
    | none => (.error (.service (some "NotFound")), b)
    | some o => (.ok ⟨some o.content.size, some o.etag⟩, b)
  | .headBucket _, b => (.ok (), b)

end Provider

def Provider.counting : Provider where
  name n := String.ofList (List.replicate (n + 1) 'u')
  time n := ⟨n, 0⟩
  partTag := ObjectStore.partTag
  objectTag := ObjectStore.objectTag
  arrange := id
  pageSize := 1000
  name_injective m n h := by
    have hlength := congrArg (·.toList.length) h
    simpa using hlength
  name_ne_empty n h := by
    have hlength := congrArg (·.toList.length) h
    simp at hlength
  later m n h := by
    simp only [Instant.le, Bool.or_eq_false_iff, Bool.and_eq_false_iff, decide_eq_false_iff_not]
    omega
  arrange_perm := List.Perm.refl
  pageSize_pos := by decide

lemma find?_eq_some_of_unique {α : Type} {f : α → Bool} {l : List α} {x : α} (hx : x ∈ l) (hf : f x = true)
    (hl : ∀ y ∈ l, f y = true → y = x) : l.find? f = some x := by
  cases h : l.find? f with
  | none => exact absurd hf (List.find?_eq_none.mp h x hx)
  | some y => rw [hl y (List.mem_of_find?_eq_some h) (List.find?_some h)]

lemma Bucket.eq_of_number {b : Bucket} {u v : Multipart} (hu : u ∈ b.uploads) (hv : v ∈ b.uploads)
    (h : u.number = v.number) : u = v := by
  have hnodup : (b.uploads.map (·.number)).Nodup := (List.pairwise_map.mpr b.ascending).nodup
  exact List.inj_on_of_nodup_map hnodup hu hv h

lemma foldl_earlier_eq {x : OpenUpload} {l : List OpenUpload} {best : Option OpenUpload} (hx : best = some x ∨ x ∈ l)
    (hbest : ∀ y, best = some y → y = x ∨ S3Storage.startedFirst y x = false)
    (hl : ∀ y ∈ l, y = x ∨ S3Storage.startedFirst x y = true ∧ S3Storage.startedFirst y x = false) :
    l.foldl S3Storage.earlier best = some x := by
  induction l generalizing best with
  | nil => simpa using hx
  | cons y rest ih =>
    obtain ⟨hy, hrest⟩ := List.forall_mem_cons.mp hl
    refine ih ?_ ?_ hrest
    · by_cases hyx : y = x
      · subst y
        left
        cases best with
        | none => rfl
        | some z =>
          obtain rfl | hz := hbest z rfl
          · exact ite_self _
          · exact if_neg (ne_true_of_eq_false hz)
      · rcases hx with rfl | hx
        · left
          exact if_pos (hy.resolve_left hyx).1
        · exact .inr ((List.mem_cons.mp hx).resolve_left (Ne.symm hyx))
    · have hlater : y = x ∨ S3Storage.startedFirst y x = false := hy.imp_right And.right
      intro z hz
      cases best with
      | none =>
        cases hz
        exact hlater
      | some w =>
        rw [S3Storage.earlier] at hz
        split at hz <;> cases hz
        · exact hbest _ rfl
        · exact hlater

namespace Provider

variable (p : Provider) {b : Bucket} {key : String}

lemma chosenUpload_listing (b : Bucket) (key : String) :
    S3Storage.chosenUpload key (p.listing b key) = (b.first? key).map p.opened := by
  have hperm : ((p.listing b key).filter (·.key = some key)).Perm ((b.uploads.filter (·.key = key)).map p.opened) := by
    refine ((p.arrange_perm _).filter _).trans ?_
    rw [List.filter_map, List.filter_filter]
    refine .of_eq (congrArg _ (List.filter_congr fun u _ => ?_))
    by_cases hu : u.key = key
    · simp [hu, opened]
    · simp [hu, opened]
  rw [Bucket.first?, S3Storage.chosenUpload, ← List.head?_filter]
  have hsorted : (b.uploads.filter (·.key = key)).Pairwise (·.number < ·.number) := b.ascending.filter _
  generalize b.uploads.filter (·.key = key) = l at hperm hsorted
  cases l with
  | nil => rw [hperm.eq_nil]; rfl
  | cons u rest =>
    have hlater : ∀ v ∈ rest, S3Storage.startedFirst (p.opened v) (p.opened u) = false := fun v hv =>
      p.later _ _ ((List.pairwise_cons.mp hsorted).1 v hv)
    refine foldl_earlier_eq (.inr (hperm.mem_iff.mpr List.mem_cons_self)) nofun fun y hy => ?_
    obtain ⟨v, hv, rfl⟩ := List.mem_map.mp (hperm.mem_iff.mp hy)
    rcases List.mem_cons.mp hv with rfl | hv
    · exact .inl rfl
    · exact .inr ⟨Instant.le_of_not_le (hlater v hv), hlater v hv⟩

variable {p} {u : Multipart}

lemma upload?_eq_some_iff {uploadId : String} :
    p.upload? b key uploadId = some u ↔ u ∈ b.uploads ∧ u.key = key ∧ p.name u.number = uploadId := by
  constructor
  · intro h
    have hname := List.find?_some h
    simp only [Bool.and_eq_true, decide_eq_true_eq] at hname
    exact ⟨List.mem_of_find?_eq_some h, hname⟩
  · rintro ⟨hu, hk, hn⟩
    refine find?_eq_some_of_unique hu (by simp [hk, hn]) fun v hv hf => Bucket.eq_of_number hv hu ?_
    simp only [Bool.and_eq_true, decide_eq_true_eq] at hf
    exact p.name_injective (hf.2.trans hn.symm)

def preceding (marker : Option String) (parts : Parts) : List (Nat × Bytes) :=
  match marker with
  | none => []
  | some marker => parts.entries.filter (·.1 ≤ Text.Decimal.value marker.toList)

lemma filter_of_ascending {front rest : List (Nat × Bytes)} {e : Nat × Bytes}
    (h : (front ++ e :: rest).Pairwise (·.1 < ·.1)) :
    (front ++ e :: rest).filter (·.1 ≤ e.1) = front ++ [e] ∧ (front ++ e :: rest).filter (e.1 < ·.1) = rest := by
  obtain ⟨-, hrest, hfront⟩ := List.pairwise_append.mp h
  have hlow : ∀ x ∈ front, x.1 < e.1 := fun x hx => hfront x hx e List.mem_cons_self
  have hhigh : ∀ x ∈ rest, e.1 < x.1 := (List.pairwise_cons.mp hrest).1
  rw [List.filter_append, List.filter_append, List.filter_cons, List.filter_cons]
  constructor
  · rw [List.filter_eq_self.mpr fun x hx => decide_eq_true (hlow x hx).le,
      List.filter_eq_nil_iff.mpr fun x hx => by simpa using hhigh x hx]
    simp
  · rw [List.filter_eq_nil_iff.mpr fun x hx => by simpa using (hlow x hx).le,
      List.filter_eq_self.mpr fun x hx => decide_eq_true (hhigh x hx)]
    simp

lemma preceding_append_following (marker : Option String) (parts : Parts) :
    preceding marker parts ++ following marker parts = parts.entries := by
  cases marker with
  | none => rfl
  | some marker =>
    have hsorted := parts.ascending
    rw [preceding, following]
    generalize Text.Decimal.value marker.toList = n
    generalize parts.entries = l at hsorted
    induction l with
    | nil => rfl
    | cons e rest ih =>
      obtain ⟨he, hrest⟩ := List.pairwise_cons.mp hsorted
      by_cases hn : e.1 ≤ n
      · have hlt : ¬ n < e.1 := Nat.not_lt.mpr hn
        simp [hn, hlt, ih hrest]
      · have hlt : n < e.1 := Nat.not_le.mp hn
        have hlow : rest.filter (·.1 ≤ n) = [] :=
          List.filter_eq_nil_iff.mpr fun x hx => by simpa using hlt.trans (he x hx)
        have hhigh : rest.filter (n < ·.1) = rest :=
          List.filter_eq_self.mpr fun x hx => decide_eq_true (hlt.trans (he x hx))
        simp [hn, hlt, hlow, hhigh]

lemma page_cases (p : Provider) (parts : Parts) (marker : Option String) :
    ∃ shown, (p.page parts marker).parts = shown.map p.listed ∧
      (S3Storage.nextMarker (p.page parts marker) = none ∧ shown = following marker parts ∨
        ∃ next, S3Storage.nextMarker (p.page parts marker) = some next ∧
          preceding (some next) parts = preceding marker parts ++ shown ∧
          0 < (following (some next) parts).length ∧
          (following (some next) parts).length < (following marker parts).length) := by
  refine ⟨(following marker parts).take p.pageSize, rfl, ?_⟩
  by_cases hlen : p.pageSize < (following marker parts).length
  · right
    -- the last part that is shown is the marker of the next page
    have hne : (following marker parts).take p.pageSize ≠ [] := by
      apply List.ne_nil_of_length_pos
      have := p.pageSize_pos
      rw [List.length_take]
      omega
    obtain ⟨front, e, hshown⟩ := (List.eq_nil_or_concat' _).resolve_left hne
    have hfollowing : front ++ e :: (following marker parts).drop p.pageSize = following marker parts := by
      conv_rhs => rw [← List.take_append_drop p.pageSize (following marker parts), hshown]
      simp
    have hentries : (preceding marker parts ++ front) ++ e :: (following marker parts).drop p.pageSize = parts.entries := by
      rw [List.append_assoc, hfollowing, preceding_append_following]
    have hsorted := parts.ascending
    rw [← hentries] at hsorted
    obtain ⟨hlow, hhigh⟩ := filter_of_ascending hsorted
    have hrest : following (some (toString e.1)) parts = (following marker parts).drop p.pageSize := by
      rw [following, Text.Decimal.value_toString, ← hentries, hhigh]
    have hpos := p.pageSize_pos
    refine ⟨toString e.1, ?_, ?_, ?_, ?_⟩
    · simp [S3Storage.nextMarker, page, hlen, hshown]
    · rw [preceding, Text.Decimal.value_toString, ← hentries, hlow, hshown, List.append_assoc]
    all_goals
      rw [hrest, List.length_drop]
      omega
  · left
    exact ⟨by simp [S3Storage.nextMarker, page, hlen], List.take_of_length_le (Nat.not_lt.mp hlen)⟩

lemma find?_listed {parts : Parts} {e : Nat × Bytes} (he : e ∈ parts.entries) :
    parts.entries.find? (p.listed · = p.listed e) = some e := by
  refine find?_eq_some_of_unique he (decide_eq_true rfl) fun x hx hlisted => ?_
  have hnumber : x.1 = e.1 :=
    Int.ofNat_inj.mp (Option.some.inj (congrArg ListedPart.number (of_decide_eq_true hlisted)))
  exact List.inj_on_of_nodup_map parts.numbers_ascending.nodup hx he hnumber

lemma mapM_find?_listed {parts : Parts} {l : List (Nat × Bytes)} (hl : ∀ e ∈ l, e ∈ parts.entries) :
    (l.map p.listed).mapM (fun x => parts.entries.find? (p.listed · = x)) = some l := by
  induction l with
  | nil => rfl
  | cons e rest ih =>
    obtain ⟨he, hrest⟩ := List.forall_mem_cons.mp hl
    rw [List.map_cons, List.mapM_cons, find?_listed he, ih hrest]
    rfl

lemma compose_listed (parts : Parts) : p.compose parts (parts.entries.map p.listed) =
    if parts.entries.dropLast.any (·.2.size < minChunkSize) then .error (.service (some "EntityTooSmall"))
    else .ok parts.assembled := by
  rw [compose, mapM_find?_listed fun _ => id]
  dsimp only
  rw [if_neg (not_not.mpr parts.ascending), Parts.assembled_eq]
  rfl

lemma compose_of_large {parts : Parts} (hs : ∀ e ∈ parts.entries.dropLast, minChunkSize ≤ e.2.size) :
    p.compose parts (parts.entries.map p.listed) = .ok parts.assembled := by
  have hlarge : ¬ parts.entries.dropLast.any (·.2.size < minChunkSize) = true := by
    rw [List.any_eq_true]
    rintro ⟨e, he, hsmall⟩
    exact absurd (hs e he) (by simpa using hsmall)
  rw [compose_listed, if_neg hlarge]

lemma eq_assembled_of_compose {parts : Parts} {content : Bytes}
    (h : p.compose parts (parts.entries.map p.listed) = .ok content) : content = parts.assembled := by
  rw [compose_listed] at h
  split at h <;> cases h
  rfl

lemma mergeSort_listed (parts : Parts) :
    (parts.entries.map p.listed).mergeSort S3Storage.numberedFirst = parts.entries.map p.listed := by
  refine List.mergeSort_of_pairwise (List.pairwise_map.mpr (parts.ascending.imp fun h => ?_))
  simpa [S3Storage.numberedFirst, listed] using h.le

end Provider

end ResumableUpload.S3
