import ResumableUpload.Proofs.S3.Remains
import ResumableUpload.Proofs.Upload.Transcript

/-! What a failed upload leaves on S3. The objects stay as they were, and so do the parts unless that of the chunk was
accepted before something else failed. -/

namespace ResumableUpload

open S3 (Bucket Line Provider Remains Untouched Yields)

def S3Storage.answers (s : S3Storage) (pages : Nat) (p : Provider) (t : Bucket × List Line) :
    (q : Call) → q.Answer → Bucket × List Line → Prop
  | .storage c, a, t' => ∃ lines, Yields p (s.respond pages c) t.1 lines a t'.1 ∧ t'.2 = t.2 ++ lines
  | _, _, t' => t' = t

def S3.Provider.unlisted (p : Provider) : (q : S3.Request) → Bucket → q.Answer × Bucket
  | .listParts .., b => (.error .dispatch, b)
  | q, b => p.respond q b

lemma S3.Provider.gives_unlisted (p : Provider) (q : S3.Request) (b : Bucket) :
    p.Gives b q (p.unlisted q b).1 (p.unlisted q b).2 := by
  cases q with
  | listParts => exact .failed rfl
  | _ => exact .served rfl

lemma S3Storage.exists_answers (s : S3Storage) (pages : Nat) {p : Provider} {c : StorageCall} {t : Bucket × List Line}
    {a : c.Answer} {b : Bucket} (h : (s.respond pages c).run p.unlisted t.1 = (a, b)) :
    ∃ lines, s.answers pages p t (.storage c) a (b, t.2 ++ lines) := by
  obtain ⟨lines, hlines⟩ : ∃ lines, Yields p (s.respond pages c) t.1 lines _ _ :=
    Dialogue.exists_yields_run p.unlisted p.gives_unlisted (s.respond pages c) t.1
  rw [h] at hlines
  exact ⟨lines, lines, hlines, rfl⟩

namespace Upload

def Request.deposit (r : Request) (key : Option EncryptionKey) : S3.Deposit := ⟨r.path, r.chunk, r.payload, key⟩

def Request.Leaving (bucket : String) (p : Provider) (r : Request) (b : Bucket) (t : Bucket × List Line) : Stage → Prop
  | .inspect | .mark _ | .finished (.ok _) => True
  | .finished (.error _) => t.1.objects = b.objects ∧ ∃ key, Remains bucket p (r.deposit key) t.2 b t.1
  | _ => Untouched t.2 b t.1

variable {policy : UploadPolicy} {r : Request} {storage : S3Storage} {pages : Nat} {p : Provider} {b : Bucket}
  {t t' : Bucket × List Line} {s s' : Stage} {q : Call} {a : q.Answer}

namespace Request

lemma leaving_error (h : Untouched t.2 b t.1) (e : UploadError) :
    r.Leaving storage.bucket p b t (.finished (.error e)) :=
  ⟨h.objects, none, h.toRemains _ _⟩

lemma leaving_keyed (h : Untouched t.2 b t.1) : r.Leaving storage.bucket p b t (.keyed policy r) :=
  Stage.keyed_of (P := r.Leaving storage.bucket p b t) (fun _ => h) (fun _ _ _ => h) fun _ _ _ => h

lemma leaving_entry (h : Untouched t.2 b t.1) : r.Leaving storage.bucket p b t (.entry policy r) :=
  Stage.entry_of (P := r.Leaving storage.bucket p b t) (fun _ => h) (fun _ _ => h) fun _ _ _ => h

lemma leaving_start (b : Bucket) : r.Leaving storage.bucket p b (b, []) (.start policy r) :=
  Stage.start_of (P := r.Leaving storage.bucket p b (b, [])) (leaving_error (.refl b)) (fun _ => .refl b)
    (fun _ => .refl b) (fun _ _ => .refl b) fun _ _ _ => .refl b

lemma leaving_completing (etag : Except UploadError String) : r.Leaving storage.bucket p b t (.completing etag) := by
  cases etag <;> trivial

lemma Leaving.next (h : r.Leaving storage.bucket p b t s) (hn : s.Next policy r q a s')
    (ha : storage.answers pages p t q a t') : r.Leaving storage.bucket p b t' s' := by
  cases hn with
  | found _ | inspected _ => exact leaving_completing _
  | missing _ =>
    obtain ⟨b', said⟩ := t'
    obtain ⟨lines, hhead, rfl⟩ := ha
    exact leaving_entry (h.append (S3.untouched_head hhead))
  | registered =>
    obtain rfl : t' = t := ha
    exact leaving_keyed h
  | drawn _ | deposited | fetched _ =>
    obtain rfl : t' = t := ha
    exact h
  | unregistered _ | undrawn _ | undeposited _ | garbled _ | unfetched _ =>
    obtain rfl : t' = t := ha
    exact leaving_error h _
  | assembled _ =>
    exact Stage.assembled_of (P := r.Leaving storage.bucket p b t') (fun _ => trivial) fun _ => trivial
  | @unstored key _ =>
    obtain ⟨b', said⟩ := t'
    obtain ⟨lines, hput, rfl⟩ := ha
    obtain ⟨hobjects, hremains⟩ := S3.remains_put (d := r.deposit key) hput
    exact ⟨hobjects.trans h.objects, key, h.append_remains hremains⟩
  | _ => exact trivial

/-- Whatever fails, an upload that ends with an error leaves the objects as they were, and all parts as well unless its
own part was accepted: then that part is in one upload of the file, and all others are as they were. -/
theorem Reaches.remains {log : List Exchange} {e : UploadError} {b' : Bucket} {said : List Line}
    (h : r.Reaches policy (storage.answers pages p) (b, []) log (.done (.error e)) (b', said)) :
    b'.objects = b.objects ∧ ∃ key, Remains storage.bucket p (r.deposit key) said b b' := by
  obtain ⟨stage, hleads, -, hleaving⟩ := h.kept (I := fun _ stage t => r.Leaving storage.bucket p b t stage)
    (leaving_start b) fun hleaving _ hn ha => hleaving.next hn ha
  obtain rfl := hleads.stage_eq
  exact hleaving

lemma exists_latter_unlisted : ∃ log said, latter.Reaches ⟨none, .head⟩
    (S3Storage.answers ⟨"testing", "eu-west-1", none⟩ 1 .counting) (.empty, []) log
    (.done (.error (.ofStorage (.uploadFailed "dispatch failure"))))
    ((Bucket.empty.create "a").store 0 2 ⟨#[7]⟩, said) := by
  -- the file is not there yet, and its part is accepted; then the listing of the parts is lost
  obtain ⟨found, hhead⟩ := S3Storage.exists_answers ⟨"testing", "eu-west-1", none⟩ 1 (p := .counting)
    (c := .head "a") (t := (.empty, [])) (a := .error (.notFound "a")) (b := .empty) (by with_unfolding_all rfl)
  obtain ⟨sent, hput⟩ := S3Storage.exists_answers ⟨"testing", "eu-west-1", none⟩ 1 (p := .counting)
    (c := .put "a" ⟨"", "", 2, 2⟩ ⟨#[7]⟩ none) (t := (.empty, found)) (a := .error (.uploadFailed "dispatch failure"))
    (b := (Bucket.empty.create "a").store 0 2 ⟨#[7]⟩) (by with_unfolding_all rfl)
  have hmissing : latter.Reaches ⟨none, .head⟩ _ _ [⟨latter, .storage (.head "a"), .error (.notFound "a")⟩] _ _ :=
    Reaches.start.answer hhead
  exact ⟨_, _, hmissing.answer hput⟩

lemma part?_unlisted :
    Bucket.part? ((Bucket.empty.create "a").store 0 2 ⟨#[7]⟩) ("a", 0, 2) ≠ Bucket.part? .empty ("a", 0, 2) := by
  decide +kernel

theorem latter_unlisted_remains : ∃ log b' said, latter.Reaches ⟨none, .head⟩
    (S3Storage.answers ⟨"testing", "eu-west-1", none⟩ 1 .counting) (.empty, []) log
    (.done (.error (.ofStorage (.uploadFailed "dispatch failure")))) (b', said) ∧ b'.objects = Bucket.empty.objects ∧
    ∃ key number body tag, (latter.deposit key).Seals body ∧
      ⟨.uploadPart "testing" "a" (Provider.counting.name number) 2 body, .ok tag⟩ ∈ said ∧
      b'.part? = Function.update Bucket.empty.part? ("a", number, 2) (some body) := by
  obtain ⟨log, said, hunlisted⟩ := exists_latter_unlisted
  obtain ⟨hobjects, key, hremains⟩ := hunlisted.remains
  refine ⟨log, _, said, hunlisted, hobjects, key, ?_⟩
  cases hremains with
  | nothing _ hparts => exact absurd (congrFun hparts ("a", 0, 2)) part?_unlisted
  | part hseals hline hparts => exact ⟨_, _, _, hseals, hline, hparts⟩

theorem latter_unlisted_committed : ¬ ∀ (policy : UploadPolicy) (r : Request) (storage : S3Storage) (pages : Nat)
    (p : Provider) (b b' : Bucket) (log : List Exchange) (e : UploadError) (said : List Line), r.chunk.isFirst = false →
    r.Reaches policy (storage.answers pages p) (b, []) log (.done (.error e)) (b', said) →
      b'.objects.get? r.path = b.objects.get? r.path ∧
        ∀ number n, b'.part? (r.path, number, n) = b.part? (r.path, number, n) := by
  intro hall
  obtain ⟨log, said, hunlisted⟩ := exists_latter_unlisted
  obtain ⟨-, hparts⟩ := hall _ _ _ _ _ _ _ _ _ _ rfl hunlisted
  exact part?_unlisted (hparts 0 2)

end Request

end Upload

end ResumableUpload
