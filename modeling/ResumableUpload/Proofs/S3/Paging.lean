import ResumableUpload.Proofs.Cipher.Part
import ResumableUpload.Proofs.Dialogue
import ResumableUpload.Proofs.S3.Race

/-! How the listing of the parts of an upload decides its completion. It comes in pages, and neither how it is cut into
them nor the order in which the parts come makes a difference. -/

namespace ResumableUpload.S3

def scripted (replies : ℕ → (q : Request) → q.Answer) (q : Request) (sent : List Request) : q.Answer × List Request :=
  (replies sent.length q, sent ++ [q])

def Request.completes : Request → Bool
  | .completeUpload .. => true
  | _ => false

section

variable (bucket key uploadId : String)

inductive Pages (replies : ℕ → (q : Request) → q.Answer) : ℕ → Option String → List PartPage → Prop
  | last {n : ℕ} {marker : Option String} {page : PartPage} :
      replies n (.listParts bucket key uploadId marker) = .ok page → S3Storage.nextMarker page = none →
      Pages replies n marker [page]
  | more {n : ℕ} {marker : Option String} {page : PartPage} {next : String} {rest : List PartPage} :
      replies n (.listParts bucket key uploadId marker) = .ok page → S3Storage.nextMarker page = some next →
      Pages replies (n + 1) (some next) rest → Pages replies n marker (page :: rest)

def pageRequests (marker : Option String) : List PartPage → List Request
  | [] => []
  | page :: rest => .listParts bucket key uploadId marker :: pageRequests (S3Storage.nextMarker page) rest

end

/-- A service takes the part of a call. It gives the upload that the part goes to, and a tag for its body. The numbers of
parts have 31 bits. -/
structure Takes (s : S3Storage) (d : Deposit) (replies : ℕ → (q : Request) → q.Answer) (opening : List Request)
    (uploadId tag : String) : Prop where
  found : (s.findOrCreateUpload d.path d.chunk.declaredType).run (scripted replies) [] = (.ok uploadId, opening)
  number : d.chunk.current < 2 ^ 31
  stored : ∀ body, d.Seals body →
    ((s.send (.uploadPart s.bucket d.path uploadId d.chunk.current body)).run (scripted replies) opening).1 =
      .ok (some tag)

def ListedPart.place (part : ListedPart) : WithBot ℤ := part.number.elim ⊥ (↑)

structure Names (held named : List ListedPart) : Prop where
  perm : named.Perm held
  ordered : named.Pairwise (·.place ≤ ·.place)
  ascending : (held.map (·.number)).Nodup → named.Pairwise (·.place < ·.place)

/-- How a call ends once it has the listing: it waits for more parts, or asks for the completion, which the service grants
or refuses. -/
inductive Closes (s : S3Storage) (d : Deposit) (reply : (q : Request) → q.Answer) (uploadId tag : String)
    (held : List ListedPart) : List Request → Except StorageError PartReceipt → Prop
  | waiting : held.length < d.chunk.total → Closes s d reply uploadId tag held [] (.ok ⟨false, tag⟩)
  | granted {named : List ListedPart} {etag : Option String} : d.chunk.total ≤ held.length → Names held named →
      reply (.completeUpload s.bucket d.path uploadId named) = .ok etag →
      Closes s d reply uploadId tag held [.completeUpload s.bucket d.path uploadId named] (.ok ⟨true, etag.getD ""⟩)
  | refused {named : List ListedPart} {e : Failure} : d.chunk.total ≤ held.length → Names held named →
      reply (.completeUpload s.bucket d.path uploadId named) = .error e →
      Closes s d reply uploadId tag held [.completeUpload s.bucket d.path uploadId named]
        (.error (S3Storage.completionFailed e))

def Deposit.counted (s : S3Storage) (d : Deposit) (uploadId tag : String) (parts : List ListedPart) :
    Exchange (Except StorageError PartReceipt) := do
  if parts.length < d.chunk.total then return .ok ⟨false, tag⟩
  else
    match ← s.completeUpload d.path uploadId parts with
    | .error e => return .error e
    | .ok etag => return .ok ⟨true, etag⟩

variable {s : S3Storage} {d : Deposit} {replies : ℕ → (q : Request) → q.Answer} {sent opening : List Request}
  {uploadId tag : String} {cut : List PartPage} {held parts : List ListedPart} {pages : ℕ} {α : Type} {q : Request}

lemma numberedFirst_iff {x y : ListedPart} : S3Storage.numberedFirst x y = true ↔ x.place ≤ y.place := by
  obtain ⟨number, _⟩ := x
  obtain ⟨number', _⟩ := y
  cases number <;> cases number' <;> simp [S3Storage.numberedFirst, ListedPart.place]

lemma place_eq_iff {x y : ListedPart} : x.place = y.place ↔ x.number = y.number := by
  obtain ⟨number, _⟩ := x
  obtain ⟨number', _⟩ := y
  cases number <;> cases number' <;> simp [ListedPart.place]

lemma names_mergeSort (h : parts.Perm held) : Names held (parts.mergeSort S3Storage.numberedFirst) := by
  have hperm : (parts.mergeSort S3Storage.numberedFirst).Perm held := (List.mergeSort_perm _ _).trans h
  have hordered : (parts.mergeSort S3Storage.numberedFirst).Pairwise (·.place ≤ ·.place) := by
    refine (List.pairwise_mergeSort (fun x y z hxy hyz => ?_) (fun x y => ?_) parts).imp numberedFirst_iff.mp
    · rw [numberedFirst_iff] at hxy hyz ⊢
      exact hxy.trans hyz
    · rw [Bool.or_eq_true, numberedFirst_iff, numberedFirst_iff]
      exact le_total x.place y.place
  refine ⟨hperm, hordered, fun hn => ?_⟩
  have hdistinct : (parts.mergeSort S3Storage.numberedFirst).Pairwise (·.number ≠ ·.number) :=
    List.pairwise_map.mp ((hperm.map _).nodup_iff.mpr hn)
  exact hordered.imp₂ (fun _ _ hle hne => lt_of_le_of_ne hle (mt place_eq_iff.mp hne)) hdistinct

/-! Requests and their replies -/

lemma run_send_bind (hq : s.send q = .ask q .done) (f : q.Answer → Exchange α) :
    (s.send q >>= f).run (scripted replies) sent = (f (replies sent.length q)).run (scripted replies) (sent ++ [q]) := by
  rw [hq]
  rfl

lemma send_of_labels {q' : Request} (hq : s.send q = .ask q .done) (hlabels : q'.labels = q.labels) :
    s.send q' = .ask q' .done := by
  have hbuildable : q'.isBuildable = q.isBuildable := by rw [Request.isBuildable, Request.isBuildable, hlabels]
  rw [S3Storage.send] at hq ⊢
  split at hq
  · next hendpoint =>
    rw [S3.send] at hq
    split at hq
    · next h => rw [if_pos hendpoint, S3.send, if_pos (hbuildable ▸ h)]
    · cases hq
  · cases hq

lemma send_of_stored {bucket path : String} {n : ℕ} {body : Bytes} {answer : Option String}
    (h : ((s.send (.uploadPart bucket path uploadId n body)).run (scripted replies) sent).1 = .ok answer) :
    s.send (.uploadPart bucket path uploadId n body) = .ask (.uploadPart bucket path uploadId n body) .done := by
  rw [S3Storage.send, S3.send] at h ⊢
  split at h
  · split at h
    · next hendpoint hbuildable => rw [if_pos hendpoint, if_pos hbuildable]
    · cases h
  · cases h

lemma run_listParts {key : String} {marker : Option String}
    (hsend : ∀ marker, s.send (.listParts s.bucket key uploadId marker) =
      .ask (.listParts s.bucket key uploadId marker) .done)
    (hcut : Pages s.bucket key uploadId replies sent.length marker cut) (hpages : cut.length ≤ pages) :
    (s.listParts key uploadId pages marker).run (scripted replies) sent =
      (.ok (cut.flatMap (·.parts)), sent ++ pageRequests s.bucket key uploadId marker cut) := by
  -- a page is asked for after one request more than the page before it, so the count goes along in the induction
  generalize hn : sent.length = n at hcut
  induction hcut generalizing pages sent with
  | @last n marker page hreply hnext =>
    obtain ⟨pages, rfl⟩ := Nat.exists_eq_succ_of_ne_zero (Nat.ne_of_gt hpages)
    rw [S3Storage.listParts, run_send_bind (hsend _), hn, hreply]
    dsimp only
    rw [hnext, List.flatMap_singleton]
    rfl
  | @more n marker page next rest hreply hnext _ ih =>
    obtain ⟨pages, rfl⟩ := Nat.exists_eq_succ_of_ne_zero (Nat.ne_of_gt (Nat.zero_lt_of_lt hpages))
    have hlength : (sent ++ [Request.listParts s.bucket key uploadId marker]).length = n + 1 := by
      rw [List.length_append, hn, List.length_singleton]
    have hrest := ih (Nat.le_of_succ_le_succ hpages) hlength
    rw [S3Storage.listParts, run_send_bind (hsend _), hn, hreply]
    dsimp only
    rw [hnext]
    dsimp only
    change (((s.listParts key uploadId pages (some next)).bind _).run _ _) = _
    rw [Dialogue.run_bind, hrest, pageRequests, hnext, List.flatMap_cons, List.append_assoc]
    rfl

namespace Closes

variable {reply : (q : Request) → q.Answer} {closing : List Request} {result : Except StorageError PartReceipt}

lemma filter_completes (h : Closes s d reply uploadId tag held closing result) :
    closing.filter (·.completes) = closing := by cases h <;> rfl

lemma ne_nil_iff (h : Closes s d reply uploadId tag held closing result) :
    closing ≠ [] ↔ d.chunk.total ≤ held.length := by
  cases h with
  | waiting hlt => exact iff_of_false (not_not_intro rfl) (Nat.not_le.mpr hlt)
  | granted hle _ _ => exact iff_of_true (List.cons_ne_nil _ _) hle
  | refused hle _ _ => exact iff_of_true (List.cons_ne_nil _ _) hle

lemma complete_iff (h : Closes s d reply uploadId tag held closing result)
    (hreply : ∀ named e, reply (.completeUpload s.bucket d.path uploadId named) ≠ .error e) :
    (∃ etag, result = .ok ⟨true, etag⟩) ↔ d.chunk.total ≤ held.length := by
  cases h with
  | waiting hlt => exact iff_of_false nofun (Nat.not_le.mpr hlt)
  | granted hle _ _ => exact iff_of_true ⟨_, rfl⟩ hle
  | refused _ _ hrefused => exact absurd hrefused (hreply _ _)

end Closes

lemma length_pageRequests (bucket key uploadId : String) (marker : Option String) (cut : List PartPage) :
    (pageRequests bucket key uploadId marker cut).length = cut.length := by
  induction cut generalizing marker with
  | nil => rfl
  | cons page rest ih => rw [pageRequests, List.length_cons, List.length_cons, ih]

lemma run_completeUpload {key : String} (hsend : ∀ named, s.send (.completeUpload s.bucket key uploadId named) =
      .ask (.completeUpload s.bucket key uploadId named) .done) :
    (s.completeUpload key uploadId parts).run (scripted replies) sent =
      (match replies sent.length (.completeUpload s.bucket key uploadId (parts.mergeSort S3Storage.numberedFirst)) with
        | .error e => .error (S3Storage.completionFailed e)
        | .ok etag => .ok (etag.getD ""),
      sent ++ [.completeUpload s.bucket key uploadId (parts.mergeSort S3Storage.numberedFirst)]) := by
  rw [S3Storage.completeUpload, run_send_bind (hsend _)]
  cases replies sent.length (.completeUpload s.bucket key uploadId (parts.mergeSort S3Storage.numberedFirst)) <;> rfl

variable (replies sent tag) in
lemma run_counted (hsend : ∀ named, s.send (.completeUpload s.bucket d.path uploadId named) =
      .ask (.completeUpload s.bucket d.path uploadId named) .done) (hheld : parts.Perm held) :
    ∃ result closing, (d.counted s uploadId tag parts).run (scripted replies) sent = (result, sent ++ closing) ∧
      Closes s d (replies sent.length) uploadId tag held closing result := by
  have hnames := names_mergeSort hheld
  rw [Deposit.counted, hheld.length_eq]
  split
  · next hlt => exact ⟨_, [], by rw [List.append_nil]; rfl, .waiting hlt⟩
  · next hle =>
    change ∃ result closing, ((s.completeUpload d.path uploadId parts).bind _).run _ _ = _ ∧ _
    rw [Dialogue.run_bind, run_completeUpload hsend]
    generalize parts.mergeSort S3Storage.numberedFirst = named at hnames
    cases hanswer : replies sent.length (.completeUpload s.bucket d.path uploadId named) with
    | error e => exact ⟨_, _, rfl, .refused (Nat.le_of_not_lt hle) hnames hanswer⟩
    | ok etag => exact ⟨_, _, rfl, .granted (Nat.le_of_not_lt hle) hnames hanswer⟩

lemma run_storePart {body : Bytes}
    (hpart : s.send (.uploadPart s.bucket d.path uploadId d.chunk.current body) =
      .ask (.uploadPart s.bucket d.path uploadId d.chunk.current body) .done)
    (hreply : replies sent.length (.uploadPart s.bucket d.path uploadId d.chunk.current body) = .ok (some tag))
    (hcut : Pages s.bucket d.path uploadId replies (sent.length + 1) none cut)
    (hheld : (cut.flatMap (·.parts)).Perm held) (hpages : cut.length ≤ pages) :
    ∃ result closing, (s.storePart pages d.path uploadId d.chunk body).run (scripted replies) sent =
        (result, sent ++ .uploadPart s.bucket d.path uploadId d.chunk.current body ::
          pageRequests s.bucket d.path uploadId none cut ++ closing) ∧
      Closes s d (replies (sent.length + 1 + cut.length)) uploadId tag held closing result := by
  have hlength : (sent ++ [Request.uploadPart s.bucket d.path uploadId d.chunk.current body]).length =
      sent.length + 1 := by rw [List.length_append, List.length_singleton]
  have hlisted := run_listParts (fun _ => send_of_labels hpart rfl) (hlength ▸ hcut) hpages
  obtain ⟨result, closing, hrun, hcloses⟩ := run_counted replies
    (sent ++ [.uploadPart s.bucket d.path uploadId d.chunk.current body] ++
      pageRequests s.bucket d.path uploadId none cut) tag (fun _ => send_of_labels hpart rfl) hheld
  rw [List.length_append, hlength, length_pageRequests] at hcloses
  refine ⟨result, closing, ?_, hcloses⟩
  rw [S3Storage.storePart, run_send_bind hpart, hreply]
  change ((s.listParts d.path uploadId pages none).bind _).run _ _ = _
  rw [Dialogue.run_bind, hlisted]
  change (d.counted s uploadId tag _).run _ _ = _
  rw [hrun, List.append_assoc sent]
  rfl

lemma asks_send (hq : q.completes = false) : Dialogue.Asks (·.completes = false) (s.send q) := by
  rw [S3Storage.send, S3.send]
  split
  · split
    · exact ⟨hq, fun _ => trivial⟩
    · trivial
  · trivial

lemma asks_findOrCreateUpload (s : S3Storage) (key contentType : String) :
    Dialogue.Asks (·.completes = false) (s.findOrCreateUpload key contentType) := by
  refine (asks_send rfl).bind fun uploads => ?_
  match uploads with
  | .error e => trivial
  | .ok uploads =>
    dsimp only
    cases (S3Storage.chosenUpload key uploads).bind (·.uploadId) with
    | some uploadId => trivial
    | none =>
      refine (asks_send rfl).bind fun created => ?_
      match created with
      | .error e => trivial
      | .ok none => trivial
      | .ok (some uploadId) => trivial

lemma forall_mem_run {P : Request → Prop} {x : Exchange α} (hx : x.Asks P) (hsent : ∀ q ∈ sent, P q) :
    ∀ q ∈ (x.run (scripted replies) sent).2, P q := by
  induction x generalizing sent with
  | done a => exact hsent
  | ask q next ih =>
    refine ih _ (hx.2 _) fun q' hq' => ?_
    rcases List.mem_append.mp hq' with h | h
    · exact hsent q' h
    · exact List.mem_singleton.mp h ▸ hx.1

lemma Takes.filter_completes (h : Takes s d replies opening uploadId tag) : opening.filter (·.completes) = [] := by
  have hasks := asks_findOrCreateUpload s d.path d.chunk.declaredType
  have hopening : ∀ q ∈ ((s.findOrCreateUpload d.path d.chunk.declaredType).run (scripted replies) []).2,
      q.completes = false := forall_mem_run hasks (List.forall_mem_nil _)
  rw [h.found] at hopening
  exact List.filter_eq_nil_iff.mpr fun q hq => Bool.eq_false_iff.mp (hopening q hq)

lemma filter_pageRequests (bucket key uploadId : String) (marker : Option String) (cut : List PartPage) :
    (pageRequests bucket key uploadId marker cut).filter (·.completes) = [] := by
  induction cut generalizing marker with
  | nil => rfl
  | cons page rest ih => exact ih (S3Storage.nextMarker page)

lemma exists_seals (hkey : ∀ k ∈ d.key, k.bytes.length ∈ [16, 24, 32]) : ∃ body, d.Seals body := by
  obtain ⟨path, chunk, payload, key⟩ := d
  cases key with
  | none => exact ⟨payload, rfl⟩
  | some k => exact ⟨_, Cipher.encryptPart_of_size (hkey k rfl)⟩

/-- The listing decides the completion, however it is cut into pages: all of them are read, completion is asked for if
and only if they bring as many parts as the file has chunks, and then for every part that they bring. -/
theorem Takes.completion (h : Takes s d replies opening uploadId tag) (hsize : d.chunk.SizeAdmissible d.payload.size)
    (hkey : ∀ k ∈ d.key, k.bytes.length ∈ [16, 24, 32])
    (hcut : Pages s.bucket d.path uploadId replies (opening.length + 1) none cut)
    (hheld : (cut.flatMap (·.parts)).Perm held) (hpages : cut.length ≤ pages) :
    ∃ result sent body closing, (d.exchange s pages).run (scripted replies) [] = (result, sent) ∧ d.Seals body ∧
      sent = opening ++ .uploadPart s.bucket d.path uploadId d.chunk.current body ::
        pageRequests s.bucket d.path uploadId none cut ++ closing ∧
      sent.filter (·.completes) = closing ∧ (closing ≠ [] ↔ d.chunk.total ≤ held.length) ∧
      Closes s d (replies (opening.length + 1 + cut.length)) uploadId tag held closing result ∧
      ((∀ named e, replies (opening.length + 1 + cut.length) (.completeUpload s.bucket d.path uploadId named) ≠
          .error e) →
        ((∃ etag, result = .ok ⟨true, etag⟩) ↔ d.chunk.total ≤ held.length)) := by
  obtain ⟨body, hbody⟩ := exists_seals hkey
  have hstored := h.stored body hbody
  have hpart := send_of_stored hstored
  rw [hpart] at hstored
  obtain ⟨result, closing, hrun, hcloses⟩ := run_storePart hpart hstored hcut hheld hpages
  refine ⟨result, _, body, closing, ?_, hbody, rfl, ?_, hcloses.ne_nil_iff, hcloses, hcloses.complete_iff⟩
  · have hchecked : d.chunk.checkSize d.payload.size = .ok () := if_pos hsize
    have hnumber : S3Storage.checkNumber d.chunk = .ok () := if_pos h.number
    rw [Deposit.exchange, S3Storage.put, hchecked, hnumber]
    change ((s.findOrCreateUpload d.path d.chunk.declaredType).bind _).run _ _ = _
    rw [Dialogue.run_bind, h.found]
    dsimp only
    rw [hbody]
    exact hrun
  · rw [List.filter_append, List.filter_append, List.filter_cons_of_neg Bool.false_ne_true, h.filter_completes,
      filter_pageRequests, hcloses.filter_completes]
    rfl

def lastDeposit : Deposit := ⟨"a", ⟨"a", "text/plain", 2, 2⟩, .ofList [7], some (Cipher.plainKey 16)⟩

def backward : ℕ → (q : Request) → q.Answer
  | _, .listUploads .. => .ok []
  | _, .createUpload .. => .ok (some "u")
  | _, .uploadPart .. => .ok (some "t2")
  | _, .listParts _ _ _ none => .ok ⟨[⟨some 2, some "t2"⟩], some true, some "2"⟩
  | _, .listParts _ _ _ (some _) => .ok ⟨[⟨some 1, some "t1"⟩], some false, none⟩
  | _, .completeUpload .. => .ok (some "e")
  | _, .headObject .. => .error .dispatch
  | _, .headBucket _ => .error .dispatch

theorem Takes.completion_backward : ∃ result sent named,
    (lastDeposit.exchange ⟨"testing", "eu-west-1", none⟩ 2).run (scripted backward) [] = (result, sent) ∧
      (∃ etag, result = .ok ⟨true, etag⟩) ∧ sent.filter (·.completes) = [.completeUpload "testing" "a" "u" named] ∧
      Names [⟨some 1, some "t1"⟩, ⟨some 2, some "t2"⟩] named := by
  have hs : S3Storage.Usable ⟨"testing", "eu-west-1", none⟩ := S3Storage.usable_testing
  have htakes : Takes ⟨"testing", "eu-west-1", none⟩ lastDeposit backward
      [.listUploads "testing" "a", .createUpload "testing" "a" "text/plain"] "u" "t2" := by
    refine ⟨?_, by decide, fun body _ => ?_⟩
    · rw [S3Storage.findOrCreateUpload, run_send_bind (hs.send rfl (List.forall_mem_nil _))]
      change (((S3Storage.send _ _ >>= _) : Exchange _).run _ _) = _
      rw [run_send_bind (hs.send rfl (List.forall_mem_singleton.mpr (by decide)))]
      rfl
    · change ((S3Storage.send _ (.uploadPart "testing" "a" "u" 2 body)).run _ _).1 = _
      rw [hs.send (q := .uploadPart "testing" "a" "u" 2 body) rfl (by decide)]
      rfl
  have hcut : Pages "testing" "a" "u" backward 3 none
      [⟨[⟨some 2, some "t2"⟩], some true, some "2"⟩, ⟨[⟨some 1, some "t1"⟩], some false, none⟩] :=
    .more rfl rfl (.last rfl rfl)
  obtain ⟨result, sent, body, closing, hrun, -, -, hfilter, -, hcloses, -⟩ :=
    htakes.completion (.inl rfl) (by decide) hcut (.swap ..) (Nat.le_refl 2)
  refine ⟨result, sent, ?_⟩
  cases hcloses with
  | waiting hlt => exact absurd hlt (by decide)
  | granted _ hnames _ => exact ⟨_, hrun, ⟨_, rfl⟩, hfilter, hnames⟩
  | refused _ _ hrefused => cases hrefused

end ResumableUpload.S3
