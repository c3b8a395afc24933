import ResumableUpload.Proofs.Client.Reach
import ResumableUpload.Proofs.Service.Acceptance
import ResumableUpload.Proofs.Service.Crowd

/-! Which answer to an upload says that its file is recorded, while others come and go and calls fail or are slow. -/

namespace ResumableUpload

open Service (Reply)

lemma Step.exists_mark {σ : Type} {s : Step σ} {x : Upload.Request} (h : (s.exchange x).marks = true) :
    ∃ authorization path etag, s.call = .registry (.mark authorization path etag) := by
  obtain ⟨before, call, answer, after⟩ := s
  cases call with
  | registry c =>
    cases c with
    | mark authorization path etag => exact ⟨authorization, path, etag, rfl⟩
    | _ => cases h
  | storage c => cases c <;> cases h
  | secret c => cases c <;> cases h
  | freshKey => cases h

/-- A request, when it comes, which faults it has and what it is going to find. -/
structure Visit where
  request : Http.Request
  start : Moment Crowd

namespace Visit

variable (config : Config) (v : Visit)

def finish : Option Reply × Moment Crowd := ((Crowd.deployment config).respond v.request).finish v.start

def steps : List (Step Crowd) := (Crowd.deployment config).steps v.request v.start

variable {config v}

lemma genuine (hf : v.start.world.rehearsal.faults.FailingMarks) : ∀ s ∈ v.steps config, s.Genuine :=
  ((Crowd.keeps_fair config).kept v.request ⟨hf, List.forall_mem_nil _⟩).2

lemma reply_alone (hfound : v.start.world.found = []) : (v.finish config).1 =
    (((Rehearsal.deployment config).respond v.request).finish ⟨v.start.clock, v.start.world.rehearsal⟩).1 :=
  (((Crowd.simulates_rehearsal config).respond v.request) none _ ⟨rfl, hfound⟩).fst_eq

end Visit

inductive Linked (b : Backends) : List (Step Crowd) → Backends → Prop
  | start : Linked b [] b
  | step {steps : List (Step Crowd)} {s : Step Crowd} : Linked b steps s.arrived → Linked b (s :: steps) s.left

namespace Linked

variable {b b' : Backends} {steps later earlier : List (Step Crowd)} {path : String}

lemma split (h : Linked b (later ++ earlier) b') : ∃ w, Linked b earlier w ∧ Linked w later b' := by
  induction later generalizing b' with
  | nil => exact ⟨b', h, .start⟩
  | cons s later ih =>
    cases h with
    | step h =>
      obtain ⟨w, hearlier, hlater⟩ := ih h
      exact ⟨w, hearlier, .step hlater⟩

lemma trans {w : Backends} (h : Linked b earlier w) (hlater : Linked w later b') : Linked b (later ++ earlier) b' := by
  induction hlater with
  | start => exact h
  | step _ ih => exact .step ih

lemma uploaded (h : Linked b steps b') (hg : ∀ s ∈ steps, s.Genuine) (hb : b.fileState path = some .uploaded) :
    b'.fileState path = some .uploaded := by
  induction h with
  | start => exact hb
  | step _ ih =>
    obtain ⟨hs, hsteps⟩ := List.forall_mem_cons.mp hg
    exact hs.kept (ih hsteps)

lemma uploaded_of_mem {s : Step Crowd} (h : Linked b steps b') (hg : ∀ s ∈ steps, s.Genuine) (hs : s ∈ steps)
    (hu : s.left.fileState path = some .uploaded) : b'.fileState path = some .uploaded := by
  obtain ⟨later, earlier, rfl⟩ := List.append_of_mem hs
  obtain ⟨w, hearlier, hlater⟩ := h.split
  cases hearlier with
  | step _ => exact hlater.uploaded (fun t ht => hg t (List.mem_append_left _ ht)) hu

lemma pairwise (h : Linked b steps b') (hg : ∀ s ∈ steps, s.Genuine) :
    steps.Pairwise fun s t => ∀ path, t.Completes path → ¬ s.Completes path := by
  induction h with
  | start => exact .nil
  | step h ih =>
    obtain ⟨-, hsteps⟩ := List.forall_mem_cons.mp hg
    refine .cons (fun t ht path hcompletes hagain => ?_) (ih hsteps)
    have hu := h.uploaded_of_mem hsteps ht hcompletes.uploaded
    rw [hagain.created] at hu
    cases hu

end Linked

variable {ι : Type} [DecidableEq ι]

/-- Requests over the same backends, with the calls of all of them. Calls that a request makes at the same time may come
in any order. -/
structure Run (config : Config) (b : Backends) (visits : ι → Visit) (history : List (ι × Step Crowd)) (b' : Backends) :
    Prop where
  failing : ∀ i, (visits i).start.world.rehearsal.faults.FailingMarks
  own : ∀ i, ((history.filter (·.1 = i)).map (·.2)).Perm ((visits i).steps config)
  linked : Linked b (history.map (·.2)) b'

def Visit.Created (config : Config) (v : Visit) (path : String) : Prop :=
  v.request.IsUpload ∧ (∃ reply, (v.finish config).1 = some reply ∧ reply.status = 201) ∧
    ∃ x, (Crowd.deployment config).reading v.request = .ok x ∧ x.path = path

structure Accounted (config : Config) (visits : ι → Visit) (history : List (ι × Step Crowd)) : Prop where
  created : ∀ i, (visits i).request.IsUpload → ∃ reply, ((visits i).finish config).1 = some reply ∧
    (reply.status = 201 ↔ ∃ x, (Crowd.deployment config).reading (visits i).request = .ok x ∧
      ∃ s, (i, s) ∈ history ∧ s.Completes x.path)
  once : ∀ i j path, (visits i).Created config path → (visits j).Created config path → i = j
  kept : ∀ between w w', between <:+: history.map (·.2) → Linked w between w' → ∀ path,
    w.fileState path = some .uploaded → w'.fileState path = some .uploaded
  refused : ∀ i, (visits i).request.IsUpload → ∀ reply, ((visits i).finish config).1 = some reply → reply.status ≠ 201 →
    ∀ s, (i, s) ∈ history → ∀ path, ¬ s.Uploads path

namespace Run

variable {config : Config} {b b' : Backends} {visits : ι → Visit} {history : List (ι × Step Crowd)}
  {i : ι} {s : Step Crowd}

lemma mem_iff (h : Run config b visits history b') : (i, s) ∈ history ↔ s ∈ (visits i).steps config := by
  rw [← (h.own i).mem_iff]
  simp

lemma genuine (h : Run config b visits history b') : ∀ s ∈ history.map (·.2), s.Genuine := by
  rw [List.forall_mem_map]
  rintro ⟨i, s⟩ hs
  exact Visit.genuine (h.failing i) s (h.mem_iff.mp hs)

lemma created_iff (h : Run config b visits history b') (hu : (visits i).request.IsUpload) :
    ∃ reply, ((visits i).finish config).1 = some reply ∧
      (reply.status = 201 ↔ ∃ x, (Crowd.deployment config).reading (visits i).request = .ok x ∧
        ∃ s, (i, s) ∈ history ∧ s.Completes x.path) := by
  obtain ⟨reply, hreply, hserves⟩ := Deployment.exists_serves hu (visits i).start
  refine ⟨reply, hreply, hserves.created_iff.trans (exists_congr fun x => and_congr_right fun hx => ?_)⟩
  constructor
  · rintro ⟨s, hs, hmarks⟩
    refine ⟨s, h.mem_iff.mpr hs, ?_⟩
    obtain ⟨authorization, path, etag, hcall⟩ := Step.exists_mark hmarks
    obtain ⟨y, hy, hconcerns⟩ := hserves.concerned s hs
    obtain rfl := Except.ok.inj (hy.symm.trans hx)
    rw [hcall] at hconcerns
    obtain ⟨-, rfl⟩ := hconcerns
    exact (Visit.genuine (h.failing i) s hs).completes_of_marks hcall hmarks
  · rintro ⟨s, hs, hcompletes⟩
    have hs := h.mem_iff.mp hs
    exact ⟨s, hs, ((Visit.genuine (h.failing i) s hs).completes_of_uploads hcompletes.uploads).2⟩

lemma exists_completes (h : Run config b visits history b') {path : String} (hv : (visits i).Created config path) :
    ∃ s, (i, s) ∈ history ∧ s.Completes path := by
  obtain ⟨hu, ⟨reply, hreply, hstatus⟩, x, hx, rfl⟩ := hv
  obtain ⟨reply', hreply', hcreated⟩ := h.created_iff hu
  obtain rfl := Option.some.inj (hreply'.symm.trans hreply)
  obtain ⟨y, hy, hs⟩ := hcreated.mp hstatus
  obtain rfl := Except.ok.inj (hy.symm.trans hx)
  exact hs

lemma status_of_uploads (h : Run config b visits history b') (hu : (visits i).request.IsUpload) {reply : Reply}
    (hreply : ((visits i).finish config).1 = some reply) (hs : (i, s) ∈ history) {path : String} (huploads : s.Uploads path) :
    reply.status = 201 := by
  obtain ⟨reply', hreply', hserves⟩ := Deployment.exists_serves hu (visits i).start
  obtain rfl := Option.some.inj (hreply'.symm.trans hreply)
  have hs := h.mem_iff.mp hs
  obtain ⟨x, hx, -⟩ := hserves.concerned s hs
  have hmarks : (s.exchange x).marks = true := ((Visit.genuine (h.failing i) s hs).completes_of_uploads huploads).2
  exact hserves.created_iff.mpr ⟨x, hx, s, hs, hmarks⟩

lemma eq_of_completes (h : Run config b visits history b') {j : ι} {t : Step Crowd} {path : String} (hs : (i, s) ∈ history)
    (ht : (j, t) ∈ history) (hcompletes : s.Completes path) (hagain : t.Completes path) : i = j := by
  have hpairwise := List.pairwise_map.mp (h.linked.pairwise h.genuine)
  have : Std.Symm fun e f : ι × Step Crowd => ∀ path, f.2.Completes path → ¬ e.2.Completes path :=
    ⟨fun e f hef path he hf => hef path hf he⟩
  by_contra hne
  exact hpairwise.forall ht hs (fun heq => hne (congrArg Prod.fst heq).symm) path hcompletes hagain

/-- An upload is answered by 201 just when its own mark has made its file uploaded, which happens once to a file. -/
theorem accounted (h : Run config b visits history b') : Accounted config visits history where
  created i hu := h.created_iff hu
  once i j path hi hj := by
    obtain ⟨s, hs, hcompletes⟩ := h.exists_completes hi
    obtain ⟨t, ht, hagain⟩ := h.exists_completes hj
    exact h.eq_of_completes hs ht hcompletes hagain
  kept between w w' hbetween hlinked path hw := hlinked.uploaded (fun s hs => h.genuine s (hbetween.subset hs)) hw
  refused i hu reply hreply hstatus s hs path huploads := hstatus (h.status_of_uploads hu hreply hs huploads)

lemma start (b : Backends) (visits : Empty → Visit) : Run config b visits [] b := ⟨nofun, nofun, .start⟩

end Run

lemma Crowd.keeps_linked (config : Config) (b : Backends) :
    (deployment config).Keeps fun w steps => w.found = [] ∧ Linked b steps w.rehearsal.backends where
  answered := by
    rintro w w' q a steps ⟨deadline, clock, clock', hperform⟩ ⟨hfound, hlinked⟩
    obtain ⟨-, htail⟩ := performs hperform
    rw [← arrive_eq hfound] at hlinked
    refine ⟨?_, hlinked.step⟩
    rw [htail, hfound, List.tail_nil]
  dropped := by
    rintro w w' q steps ⟨deadline, clock, clock', hperform⟩ ⟨hfound, hlinked⟩
    obtain ⟨hperforms, htail⟩ := performs hperform
    cases hperforms with
    | dropped hbackends _ =>
      rw [hbackends, arrive_eq hfound, htail, hfound]
      exact ⟨rfl, hlinked⟩

lemma Run.next {config : Config} {b b' : Backends} {visits : ι → Visit} {history : List (ι × Step Crowd)}
    (h : Run config b visits history b') {v : Visit} (hfound : v.start.world.found = [])
    (hstart : v.start.world.rehearsal.backends = b') (hf : v.start.world.rehearsal.faults.FailingMarks) :
    Run config b (fun i : Option ι => i.elim v visits)
      ((v.steps config).map (none, ·) ++ history.map fun e => (some e.1, e.2))
      (v.finish config).2.world.rehearsal.backends where
  failing i := by
    cases i with
    | none => exact hf
    | some i => exact h.failing i
  own i := by
    cases i with
    | none => simp [List.filter_map, Function.comp_def]
    | some i =>
      have hown := h.own i
      simpa [List.filter_map, Function.comp_def] using hown
  linked := by
    obtain ⟨-, hlinked⟩ := (Crowd.keeps_linked config b').kept v.request ⟨hfound, hstart ▸ .start⟩
    have hcalls : ((v.steps config).map ((none : Option ι), ·) ++ history.map fun e => (some e.1, e.2)).map (·.2) =
        v.steps config ++ history.map (·.2) := by simp [Function.comp_def]
    rw [hcalls]
    exact h.linked.trans hlinked

def plainConfig : Config := { encryptionDisabled := true, completionDigest := some .part }

def Visit.greeting (register : List (Fault (Except UploadError Unit))) : Visit :=
  ⟨UploadClient.helloRequest, ⟨0, ⟨.withKeys [], { Faults.none with register }, []⟩, []⟩⟩

section

open UploadClient (hello helloRequest helloFields uploads_hello read_hello)

lemma uploads_helloRequest : helloRequest.Uploads plainConfig.maxChunkBytes.toNat helloFields := uploads_hello

lemma Visit.created_hello : (Visit.greeting []).Created plainConfig "a" := by
  have hread := (Deployment.respond_of_uploads (d := Crowd.deployment plainConfig) uploads_helloRequest read_hello
    (Visit.greeting []).start).1
  have unkeyed : (Backends.withKeys []).Provides plainConfig.policy none := rfl
  have hleaves : (Deployment.described helloRequest (.least 5 1) hello).Leaves plainConfig.policy (.withKeys [])
      (.ok .completed) _ :=
    Upload.Request.leaves_whole plainConfig.policy (by decide) rfl rfl unkeyed (.inl rfl) rfl (by decide) rfl
  obtain ⟨b, hserve, -⟩ := hleaves
  obtain ⟨calls, hrespond⟩ := Deployment.respond_upload uploads_helloRequest read_hello (m := Rehearsal.start [] .none) rfl
    hserve
  refine ⟨⟨uploads_hello.method, uploads_hello.path⟩, ⟨.bare 201, ?_, rfl⟩, _, hread, rfl⟩
  exact (Visit.reply_alone rfl).trans (congrArg Prod.fst hrespond)

lemma Visit.finish_hello (register : List (Fault (Except UploadError Unit))) :
    let d := Crowd.deployment plainConfig
    let x := Deployment.described helloRequest (.least 5 1) hello
    (Visit.greeting register).finish plainConfig =
      (some (d.uploadReply ((d.serve x (Visit.greeting register).start).1.getD (.error .timeout))),
        (d.serve x (Visit.greeting register).start).2) :=
  (Deployment.respond_of_uploads uploads_helloRequest read_hello _).2

theorem hello_accounted :
    let late := Visit.greeting [⟨60001, none⟩]
    let failing := Visit.greeting [⟨0, some (.error (.connection "refused"))⟩]
    let visits := fun i : Option (Option (Option Empty)) =>
      i.elim (Visit.greeting []) fun i => i.elim failing fun i => i.elim late Empty.elim
    ∃ history b', Run plainConfig (.withKeys []) visits history b' ∧ Accounted plainConfig visits history ∧
      (visits none).Created plainConfig "a" ∧
      (∃ reply, (failing.finish plainConfig).1 = some reply ∧ reply.status = 500) ∧
      ∃ reply, (late.finish plainConfig).1 = some reply ∧ reply.status = 504 := by
  -- the first request waits too long for its registration, that of the second one fails, and the third one is served
  intro late failing visits
  have hlate := Visit.finish_hello [⟨60001, none⟩]
  have hfailing := Visit.finish_hello [⟨0, some (.error (.connection "refused"))⟩]
  have hlateleft : (late.finish plainConfig).2.world.rehearsal.backends = .withKeys [] := by
    rw [hlate]
    rfl
  have hfailingleft : (failing.finish plainConfig).2.world.rehearsal.backends = .withKeys [] := by
    rw [hfailing]
    rfl
  have hstart : Run plainConfig (.withKeys []) Empty.elim [] (.withKeys []) := .start _ _
  have hfirst := hstart.next (v := late) rfl rfl (List.forall_mem_nil _)
  rw [hlateleft] at hfirst
  have hsecond := hfirst.next (v := failing) rfl rfl (List.forall_mem_nil _)
  rw [hfailingleft] at hsecond
  have hrun := hsecond.next (v := .greeting []) rfl rfl (List.forall_mem_nil _)
  refine ⟨_, _, hrun, hrun.accounted, Visit.created_hello, ?_, ?_⟩
  · rw [hfailing]
    exact ⟨_, rfl, rfl⟩
  · rw [hlate]
    exact ⟨_, rfl, rfl⟩

end

end ResumableUpload
