import ResumableUpload.Proofs.S3.Provider

/-! The stages that the storing of a chunk on S3 goes through, whatever the service answers, and where each of them
leads when a provider answers. -/

namespace ResumableUpload

structure S3Storage.Usable (s : S3Storage) : Prop where
  endpoint : s.endpoint.all S3.Endpoint.isUsable = true
  bucket : s.bucket ≠ ""
  plain : s.bucket.startsWith "arn:" = false

def S3Storage.testing : S3Storage := ⟨"testing", "eu-west-1", none⟩

lemma S3Storage.usable_testing : testing.Usable := ⟨rfl, by decide, by simp [testing]⟩

section

variable {s : S3Storage} {q : S3.Request}

lemma S3Storage.Usable.send {rest : List String} (h : s.Usable) (hq : q.labels = s.bucket :: rest)
    (hrest : ∀ l ∈ rest, l ≠ "") : s.send q = .ask q .done := by
  have hempty : q.labels.contains "" = false := by
    rw [hq, List.contains_eq_any_beq, List.any_eq_false]
    intro l hl
    have hne : l ≠ "" := (List.mem_cons.mp hl).elim (fun he => he ▸ h.bucket) (hrest l)
    simpa using hne.symm
  have hbuildable : q.isBuildable = true := by
    rw [S3.Request.isBuildable, hempty, hq, List.head?_cons, Option.any_some, h.plain]
    rfl
  rw [S3Storage.send, if_pos h.endpoint, S3.send, if_pos hbuildable]

lemma S3Storage.Usable.send_unnamed (h : s.Usable) (hq : "" ∈ q.labels) : s.send q = .done (q.failed .construction) := by
  have hbuildable : ¬ q.isBuildable = true := by simp [S3.Request.isBuildable, hq]
  rw [S3Storage.send, if_pos h.endpoint, S3.send, if_neg hbuildable]

end

namespace S3

lemma exists_payload : ∃ payload : Bytes, minChunkSize ≤ payload.size :=
  ⟨⟨Array.replicate minChunkSize 97⟩, Array.size_replicate.ge⟩

structure Deposit where
  path : String
  chunk : Chunk
  payload : Bytes
  key : Option EncryptionKey

def Deposit.exchange (s : S3Storage) (pages : Nat) (d : Deposit) : Exchange (Except StorageError PartReceipt) :=
  s.put pages d.path d.chunk d.payload d.key

/-- Where the storing of a chunk stands, with what it carries on. While parts are listed, `pages` is the number of
pages that may follow. At the end it still knows which upload it took part in. -/
inductive Stage
  | find
  | create
  | upload (uploadId : String) (body : Bytes)
  | list (uploadId tag : String) (pages : Nat) (marker : Option String) (seen : List ListedPart)
  | complete (uploadId : String) (parts : List ListedPart)
  | finished (uploadId : Option String) (result : Except StorageError PartReceipt)

namespace Stage

variable (s : S3Storage) (pages : Nat) (d : Deposit)

def question : Stage → Option Request
  | find => some (.listUploads s.bucket d.path)
  | create => some (.createUpload s.bucket d.path d.chunk.declaredType)
  | upload uploadId body => some (.uploadPart s.bucket d.path uploadId d.chunk.current body)
  | list uploadId _ _ marker _ => some (.listParts s.bucket d.path uploadId marker)
  | complete uploadId parts =>
    some (.completeUpload s.bucket d.path uploadId (parts.mergeSort S3Storage.numberedFirst))
  | finished .. => none

def failed (uploadId : Option String) (e : Failure) : Stage := finished uploadId (.error (S3Storage.uploadFailed e))

def entered (uploadId : String) : Stage :=
  match d.chunk.body d.payload d.key with
  | .error e => finished none (.error e)
  | .ok body => if uploadId = "" then failed none .construction else upload uploadId body

def listing (uploadId tag : String) (seen : List ListedPart) : Nat → Option String → Stage
  | 0, _ => finished (some uploadId) (.error (.uploadFailed "listing of parts has no end"))
  | pages + 1, marker => list uploadId tag pages marker seen

def counted (uploadId tag : String) (parts : List ListedPart) : Stage :=
  if parts.length < d.chunk.total then finished (some uploadId) (.ok ⟨false, tag⟩) else complete uploadId parts

def found (uploads : List OpenUpload) : Stage :=
  match (S3Storage.chosenUpload d.path uploads).bind (·.uploadId) with
  | some uploadId => entered d uploadId
  | none => create

def paged (uploadId tag : String) (pages : Nat) (seen : List ListedPart) (page : PartPage) : Stage :=
  match S3Storage.nextMarker page with
  | none => counted d uploadId tag (seen ++ page.parts)
  | some next => listing uploadId tag (seen ++ page.parts) pages (some next)

def after : Stage → (q : Request) → q.Answer → Stage
  | find, .listUploads .., .ok uploads => found d uploads
  | find, .listUploads .., .error e => failed none e
  | create, .createUpload .., .ok (some uploadId) => entered d uploadId
  | create, .createUpload .., .ok none => finished none (.error (.uploadFailed "No upload ID returned from S3"))
  | create, .createUpload .., .error e => failed none e
  | upload uploadId _, .uploadPart .., .ok (some tag) => listing uploadId tag [] pages none
  | upload uploadId _, .uploadPart .., .ok none =>
    finished (some uploadId) (.error (.uploadFailed s!"No ETag returned for part {d.chunk.current}"))
  | upload uploadId _, .uploadPart .., .error e => failed (some uploadId) e
  | list uploadId tag pages _ seen, .listParts .., .ok page => paged d uploadId tag pages seen page
  | list uploadId .., .listParts .., .error e => failed (some uploadId) e
  | complete uploadId _, .completeUpload .., .ok etag => finished (some uploadId) (.ok ⟨true, etag.getD ""⟩)
  | complete uploadId _, .completeUpload .., .error e =>
    finished (some uploadId) (.error (S3Storage.completionFailed e))
  | stage, _, _ => stage

def receipt? : Stage → Option PartReceipt
  | finished _ (.ok r) => some r
  | _ => none

def start : Stage :=
  match d.chunk.checkSize d.payload.size, S3Storage.checkNumber d.chunk with
  | .error e, _ => finished none (.error e)
  | .ok (), .error e => finished none (.error e)
  | .ok (), .ok () => find

lemma exists_finished {stage : Stage} {r : PartReceipt} (h : stage.receipt? = some r) :
    ∃ uploadId, stage = .finished uploadId (.ok r) := by
  cases stage with
  | finished uploadId result =>
    cases result with
    | ok => exact ⟨uploadId, by rw [Option.some.inj h]⟩
    | error => cases h
  | _ => cases h

end Stage

inductive Leads (s : S3Storage) (pages : Nat) (d : Deposit) {α : Type} (goal : α → Stage → Prop) :
    Stage → Exchange α → Prop
  | done {a : α} {stage : Stage} : goal a stage → Leads s pages d goal stage (.done a)
  | ask {stage : Stage} {q : Request} {next} : stage.question s d = some q →
      (∀ a, Leads s pages d goal (stage.after pages d q a) (next a)) → Leads s pages d goal stage (.ask q next)

variable {s : S3Storage} {pages : Nat} {d : Deposit} {α β : Type} {goal : β → Stage → Prop} {stage : Stage}

namespace Leads

lemma bind {between : α → Stage → Prop} {x : Exchange α} {f : α → Exchange β} (h : Leads s pages d between stage x)
    (hf : ∀ a stage, between a stage → Leads s pages d goal stage (f a)) : Leads s pages d goal stage (x >>= f) := by
  change Leads s pages d goal stage (x.bind f)
  induction h with
  | done ha => exact hf _ _ ha
  | ask hq _ ih => exact .ask hq ih

lemma send {q : Request} {rest : List String} {f : q.Answer → Exchange β} (h : s.Usable)
    (hq : stage.question s d = some q) (hlabels : q.labels = s.bucket :: rest) (hrest : ∀ l ∈ rest, l ≠ "")
    (hf : ∀ a, Leads s pages d goal (stage.after pages d q a) (f a)) :
    Leads s pages d goal stage (s.send q >>= f) := by
  rw [h.send hlabels hrest]
  exact .ask hq hf

end Leads

def Onward (uploadId : Option String) (next : α → Stage) : Except StorageError α → Stage → Prop
  | .error e, stage => stage = .finished uploadId (.error e)
  | .ok a, stage => stage = next a

lemma findOrCreateUpload_leads (h : s.Usable) (hpath : d.path ≠ "") : Leads s pages d (Onward none (.entered d)) .find
    (s.findOrCreateUpload d.path d.chunk.declaredType) := by
  refine .send h rfl rfl (List.forall_mem_nil _) fun a => ?_
  cases a with
  | error e => exact .done rfl
  | ok uploads =>
    change Leads _ _ _ _ (.found d uploads) _
    rw [Stage.found]
    dsimp only
    cases (S3Storage.chosenUpload d.path uploads).bind (·.uploadId) with
    | some uploadId => exact .done rfl
    | none =>
      have hlabels : ∀ l ∈ [d.path], l ≠ "" := List.forall_mem_singleton.mpr hpath
      refine .send (q := .createUpload s.bucket d.path d.chunk.declaredType) h rfl rfl hlabels fun a => ?_
      match a with
      | .error e => exact .done rfl
      | .ok none => exact .done rfl
      | .ok (some uploadId) => exact .done rfl

def Returned (result : Except StorageError PartReceipt) (stage : Stage) : Prop :=
  ∃ uploadId, stage = .finished uploadId result

section

variable {uploadId : String} (h : s.Usable) (hpath : d.path ≠ "") (hid : uploadId ≠ "")

include hpath hid in
lemma forall_labels : ∀ l ∈ [d.path, uploadId], l ≠ "" :=
  List.forall_mem_cons.mpr ⟨hpath, List.forall_mem_singleton.mpr hid⟩

include h hpath hid

lemma listParts_leads (tag : String) (left : Nat) (marker : Option String) (seen : List ListedPart) :
    Leads s pages d (Onward (some uploadId) fun more => .counted d uploadId tag (seen ++ more))
      (.listing uploadId tag seen left marker) (s.listParts d.path uploadId left marker) := by
  induction left generalizing marker seen with
  | zero => exact .done rfl
  | succ left ih =>
    refine .send h rfl rfl (forall_labels hpath hid) fun a => ?_
    cases a with
    | error e => exact .done rfl
    | ok page =>
      change Leads _ _ _ _ (.paged d uploadId tag left seen page) _
      rw [Stage.paged]
      dsimp only
      cases S3Storage.nextMarker page with
      | none => exact .done rfl
      | some next =>
        refine (ih (some next) (seen ++ page.parts)).bind fun result stage hstage => ?_
        cases result with
        | error e => exact .done hstage
        | ok more =>
          rw [Onward, List.append_assoc] at hstage
          exact .done hstage

lemma completeUpload_leads (parts : List ListedPart) :
    Leads s pages d (Onward (some uploadId) fun etag => .finished (some uploadId) (.ok ⟨true, etag⟩))
      (.complete uploadId parts) (s.completeUpload d.path uploadId parts) := by
  refine .send h rfl rfl (forall_labels hpath hid) fun a => ?_
  cases a <;> exact .done rfl

lemma storePart_leads (body : Bytes) :
    Leads s pages d Returned (.upload uploadId body) (s.storePart pages d.path uploadId d.chunk body) := by
  refine .send h rfl rfl (forall_labels hpath hid) fun a => ?_
  match a with
  | .error e => exact .done ⟨_, rfl⟩
  | .ok none => exact .done ⟨_, rfl⟩
  | .ok (some tag) =>
    refine (listParts_leads h hpath hid tag pages none []).bind fun result stage hstage => ?_
    cases result with
    | error e => exact .done ⟨_, hstage⟩
    | ok parts =>
      obtain rfl : stage = .counted d uploadId tag parts := hstage
      dsimp only [Stage.counted]
      split
      · exact .done ⟨_, rfl⟩
      · refine (completeUpload_leads h hpath hid parts).bind fun result stage hstage => ?_
        cases result <;> exact .done ⟨_, hstage⟩

end

theorem exchange_leads (h : s.Usable) (hpath : d.path ≠ "") : Leads s pages d Returned (.start d) (d.exchange s pages) := by
  rw [Deposit.exchange, S3Storage.put, Stage.start]
  cases d.chunk.checkSize d.payload.size with
  | error e => exact .done ⟨_, rfl⟩
  | ok u =>
    cases S3Storage.checkNumber d.chunk with
    | error e => exact .done ⟨_, rfl⟩
    | ok u =>
      refine (findOrCreateUpload_leads h hpath).bind fun result stage hstage => ?_
      cases result with
      | error e => exact .done ⟨_, hstage⟩
      | ok uploadId =>
        obtain rfl : stage = .entered d uploadId := hstage
        rw [Stage.entered]
        cases d.chunk.body d.payload d.key with
        | error e => exact .done ⟨_, rfl⟩
        | ok body =>
          change Leads _ _ _ _ (if _ then _ else _) _
          split
          · next hid =>
            have hlabels : "" ∈ (Request.uploadPart s.bucket d.path uploadId d.chunk.current body).labels := by
              simp [Request.labels, hid]
            dsimp only
            rw [S3Storage.storePart, h.send_unnamed hlabels]
            exact .done ⟨_, rfl⟩
          · next hid => exact storePart_leads h hpath hid body

def Stage.Within (uploadId : String) : Stage → Prop
  | upload u _ | list u .. | complete u _ => u = uploadId
  | _ => False

inductive Turn (p : Provider) (pages : Nat) (d : Deposit) : Stage → Bucket → Stage → Bucket → Prop
  | found {b : Bucket} {u : Multipart} : b.first? d.path = some u →
      Turn p pages d .find b (.entered d (p.name u.number)) b
  | absent {b : Bucket} : b.first? d.path = none → Turn p pages d .find b .create b
  | created {b : Bucket} : Turn p pages d .create b (.entered d (p.name b.created)) (b.create d.path)
  | stored {b : Bucket} {u : Multipart} {uploadId : String} {body : Bytes} : p.upload? b d.path uploadId = some u →
      Turn p pages d (.upload uploadId body) b (.listing uploadId (p.partTag body) [] pages none)
        (b.store u.number d.chunk.current body)
  | continued {b : Bucket} {u : Multipart} {uploadId tag next : String} {left : Nat} {marker : Option String}
      {seen : List ListedPart} {shown : List (Nat × Bytes)} : p.upload? b d.path uploadId = some u →
      Provider.preceding (some next) u.parts = Provider.preceding marker u.parts ++ shown →
      0 < (Provider.following (some next) u.parts).length →
      (Provider.following (some next) u.parts).length < (Provider.following marker u.parts).length →
      Turn p pages d (.list uploadId tag left marker seen) b
        (.listing uploadId tag (seen ++ shown.map p.listed) left (some next)) b
  | listed {b : Bucket} {u : Multipart} {uploadId tag : String} {left : Nat} {marker : Option String}
      {seen : List ListedPart} : p.upload? b d.path uploadId = some u →
      Turn p pages d (.list uploadId tag left marker seen) b
        (.counted d uploadId tag (seen ++ (Provider.following marker u.parts).map p.listed)) b
  | completed {b : Bucket} {u : Multipart} {uploadId etag : String} {parts : List ListedPart} {content : Bytes} :
      p.upload? b d.path uploadId = some u →
      p.compose u.parts (parts.mergeSort S3Storage.numberedFirst) = .ok content →
      Turn p pages d (.complete uploadId parts) b (.finished (some uploadId) (.ok ⟨true, etag⟩))
        (b.finish u.number d.path ⟨content, etag⟩)
  | rejected {b : Bucket} {u : Multipart} {uploadId : String} {parts : List ListedPart} {e : Failure} :
      p.upload? b d.path uploadId = some u →
      p.compose u.parts (parts.mergeSort S3Storage.numberedFirst) = .error e →
      Turn p pages d (.complete uploadId parts) b (.finished (some uploadId) (.error (S3Storage.completionFailed e))) b
  | lost {b : Bucket} {stage : Stage} {uploadId : String} {e : StorageError} : p.upload? b d.path uploadId = none →
      stage.Within uploadId → Turn p pages d stage b (.finished (some uploadId) (.error e)) b

lemma turn_of_respond (p : Provider) (b : Bucket) {q : Request} (hq : stage.question s d = some q) :
    Turn p pages d stage b (stage.after pages d q (p.respond q b).1) (p.respond q b).2 := by
  cases stage <;> cases hq
  case find =>
    change Turn p pages d .find b (.found d (p.listing b d.path)) b
    rw [Stage.found, p.chosenUpload_listing]
    cases hu : b.first? d.path with
    | none => exact .absent hu
    | some u => exact .found hu
  case create => exact .created
  case upload uploadId body =>
    dsimp only [Provider.respond]
    cases hu : p.upload? b d.path uploadId with
    | none => exact .lost hu rfl
    | some u => exact .stored hu
  case list uploadId tag left marker seen =>
    dsimp only [Provider.respond]
    cases hu : p.upload? b d.path uploadId with
    | none => exact .lost hu rfl
    | some u =>
      change Turn p pages d _ b (.paged d uploadId tag left seen (p.page u.parts marker)) b
      obtain ⟨shown, hshown, ⟨hlast, rfl⟩ | ⟨next, hnext, hsplit, hpos, hlt⟩⟩ := p.page_cases u.parts marker
      · rw [Stage.paged, hlast, hshown]
        exact .listed hu
      · rw [Stage.paged, hnext, hshown]
        exact .continued hu hsplit hpos hlt
  case complete uploadId parts =>
    dsimp only [Provider.respond]
    cases hu : p.upload? b d.path uploadId with
    | none => exact .lost hu rfl
    | some u =>
      dsimp only
      cases hc : p.compose u.parts (parts.mergeSort S3Storage.numberedFirst) with
      | error e => exact .rejected hu hc
      | ok content => exact .completed hu hc

lemma Leads.run_kept {p : Provider} {I : Stage → Bucket → Prop} {x : Exchange (Except StorageError PartReceipt)}
    {b : Bucket} (h : Leads s pages d Returned stage x) (hi : I stage b)
    (hturn : ∀ {stage stage' b b'}, Turn p pages d stage b stage' b' → I stage b → I stage' b') :
    ∃ uploadId, I (.finished uploadId (x.run p.respond b).1) (x.run p.respond b).2 := by
  induction h generalizing b with
  | done hr =>
    obtain ⟨uploadId, rfl⟩ := hr
    exact ⟨uploadId, hi⟩
  | ask hq _ ih => exact ih _ (hturn (turn_of_respond p b hq) hi)

end S3

end ResumableUpload
