import ResumableUpload.Proofs.Service.Session

/-! Whence the digest of a finished object is taken makes no difference in memory, as long as nothing fails and nobody
else comes between: an object is found with the tag that was told of its last part. -/

namespace ResumableUpload

lemma ObjectStore.objects_put {s : ObjectStore} {path : String} {chunk : Chunk} {payload : Bytes}
    {key : Option EncryptionKey} {receipt : PartReceipt} (h : (s.put path chunk payload key).1 = .ok receipt)
    (hc : receipt.complete = true) :
    ∃ o, (s.put path chunk payload key).2.objects.get? path = some o ∧ o.etag = receipt.etag := by
  generalize hput : s.put path chunk payload key = after at h ⊢
  obtain ⟨answer, s'⟩ := after
  obtain rfl : answer = .ok receipt := h
  obtain ⟨-, body, -, hplace⟩ := exists_body_of_put hput
  rw [place] at hplace
  split at hplace
  · cases hplace
    cases hc
  · cases hplace
    exact ⟨_, Table.get?_insert .. |>.trans (if_pos rfl), rfl⟩

section

variable {σ α β : Type} (respond : (q : Call) → σ → q.Answer × σ)

lemma Attempt.run_bind (x : Attempt α) (f : α → Attempt β) (s : σ) : Dialogue.run respond (x >>= f).run s =
    match Dialogue.run respond x.run s with
    | (.ok a, s) => Dialogue.run respond (f a).run s
    | (.error e, s) => (.error e, s) := by
  have hbind : Dialogue.run respond (x >>= f).run s = _ := Dialogue.run_bind respond x.run (ExceptT.bindCont f) s
  rw [hbind]
  rcases Dialogue.run respond x.run s with ⟨result, s'⟩
  cases result <;> rfl

lemma Attempt.run_lift (p : Procedure α) (s : σ) : Dialogue.run respond (ExceptT.lift p : Attempt α).run s =
    (.ok (p.run respond s).1, (p.run respond s).2) :=
  Dialogue.run_bind respond p (fun a => .done (Except.ok a)) s

lemma Attempt.run_liftM (p : Procedure α) (s : σ) : Dialogue.run respond (liftM p : Attempt α).run s =
    (.ok (p.run respond s).1, (p.run respond s).2) := run_lift respond p s

end

namespace Upload

variable {digest : CompletionDigest} {b : Backends} {path : String} {receipt : PartReceipt}

lemma run_completionTag {o : StoredObject} (ho : b.objects.objects.get? path = some o)
    (htag : o.etag = receipt.etag) (digest : CompletionDigest) :
    (completionTag digest path receipt).run Backends.respond b = (.ok (ETag.unquote receipt.etag), b) := by
  cases digest with
  | part => rfl
  | head =>
    have hhead : Backends.respond (.storage (.head path)) b = (.ok ⟨o.content.size, some o.etag⟩, b) := by
      simp only [Backends.respond, ObjectStore.respond, ObjectStore.head, ho]
    change Dialogue.run Backends.respond (.ask (.storage (.head path)) _) b = _
    rw [Dialogue.run, hhead, ← htag]
    rfl

lemma run_store_eq (keyRoot authorization : Option String) (m : FileMetadata) (c : Chunk) (payload : Bytes)
    (b : Backends) (digest digest' : CompletionDigest) :
    Dialogue.run Backends.respond (store ⟨keyRoot, digest⟩ authorization m c payload).run b =
      Dialogue.run Backends.respond (store ⟨keyRoot, digest'⟩ authorization m c payload).run b := by
  have hkey : keyFor ⟨keyRoot, digest⟩ authorization m c = keyFor ⟨keyRoot, digest'⟩ authorization m c := rfl
  simp only [store, Attempt.run_bind, Attempt.run_liftM, hkey]
  rcases Dialogue.run Backends.respond (keyFor ⟨keyRoot, digest'⟩ authorization m c).run b with ⟨result, b₁⟩
  cases result with
  | error e => rfl
  | ok key =>
    have hput : Dialogue.run Backends.respond (Procedure.storage (.put m.path c payload key)) b₁ =
        ((b₁.objects.put m.path c payload key).1, { b₁ with objects := (b₁.objects.put m.path c payload key).2 }) := rfl
    dsimp only
    rw [hput]
    cases hreceipt : (b₁.objects.put m.path c payload key).1 with
    | error e => rfl
    | ok receipt =>
      dsimp only
      split
      · next hcomplete =>
        -- what is asked for its tag is the object that this part has just completed
        obtain ⟨o, ho, htag⟩ := ObjectStore.objects_put hreceipt hcomplete
        simp only [Attempt.run_bind, Attempt.run_lift]
        rw [run_completionTag ho htag digest, run_completionTag ho htag digest']
      · rfl

lemma run_procedure_eq (r : Request) (keyRoot : Option String) (b : Backends) (digest digest' : CompletionDigest) :
    (r.procedure ⟨keyRoot, digest⟩).run Backends.respond b =
      (r.procedure ⟨keyRoot, digest'⟩).run Backends.respond b := by
  have hstore := run_store_eq keyRoot r.authorization r.metadata r.chunk r.payload
  simp only [Request.procedure, chunk, Attempt.run_bind]
  rcases Dialogue.run Backends.respond (ExceptT.mk (.done r.chunk.checkPosition) : Attempt Unit).run b with ⟨result, b₁⟩
  cases result with
  | error e => rfl
  | ok u =>
    dsimp only
    split
    · simp only [Attempt.run_bind, Attempt.run_liftM]
      split
      · rfl
      · exact hstore _ digest digest'
    · exact hstore b₁ digest digest'

end Upload

namespace Operation

variable (keyRoot : Option String) (digest digest' : CompletionDigest)

lemma run_procedure_eq (op : Operation) (b : Backends) : (op.procedure ⟨keyRoot, digest⟩).run Backends.respond b =
    (op.procedure ⟨keyRoot, digest'⟩).run Backends.respond b := by
  cases op with
  | upload r =>
    have hmap : ∀ policy, (procedure policy (upload r)).run Backends.respond b = _ := fun policy =>
      Dialogue.run_bind Backends.respond (r.procedure policy) (fun result => .done (Outcome.upload result)) b
    rw [hmap, hmap, Upload.run_procedure_eq r keyRoot b digest digest']
  | status authorization path => rfl

lemma run_session_eq (ops : List Operation) (b : Backends) : (session ⟨keyRoot, digest⟩ ops).run Backends.respond b =
    (session ⟨keyRoot, digest'⟩ ops).run Backends.respond b := by
  induction ops generalizing b with
  | nil => rfl
  | cons op ops ih =>
    rw [run_session_cons, run_session_cons, run_procedure_eq keyRoot digest digest' op b]
    dsimp only
    rw [ih]

end Operation

/-- The same operations have the same outcomes and leave the same stores, from wherever the digest of a finished object
is taken. -/
theorem Rehearsal.session_digest (config : Config) (ops : List Operation) (b : Backends) :
    ∃ history b', ∀ (digest : CompletionDigest) (clock : Nat) (calls : List Call), ∃ calls',
      ((deployment { config with completionDigest := some digest }).session ops).finish ⟨clock, b, .none, calls⟩ =
        (some history, ⟨clock, b', .none, calls'⟩) := by
  let served := (Operation.session ⟨config.policy.keyRoot, .part⟩ ops).run Backends.respond b
  refine ⟨served.1, served.2, fun digest clock calls => ?_⟩
  have hserved : (Operation.session ⟨config.policy.keyRoot, digest⟩ ops).run Backends.respond b = served :=
    Operation.run_session_eq config.policy.keyRoot digest .part ops b
  rw [← hserved]
  exact Quiet.session _ ops clock b calls

end ResumableUpload
