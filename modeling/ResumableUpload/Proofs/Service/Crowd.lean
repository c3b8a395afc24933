import ResumableUpload.Proofs.Service.Tracing
import ResumableUpload.Rehearsal

/-! Requests that are under way at the same time. Each of them is a rehearsal of its own, with its own time and its own
faults; what it finds at a call is what all of them have left. -/

namespace ResumableUpload

open Upload (Exchange)

namespace Backends

def fileState (b : Backends) (path : String) : Option FileState := (b.registry.records.get? path).map (·.state)

variable (b : Backends) (c : Call) (authorization : Option String) (path etag : String)

lemma fileState_mark : (respond (.registry (.mark authorization path etag)) b).2.fileState path =
    (b.fileState path).map fun _ => .uploaded := by
  simp only [respond, FileRegistry.respond, FileRegistry.mark, fileState]
  split
  · next h => simp [h]
  · next h => simp [h]
  · next h => simp [h, Table.get?_insert]

lemma mark_eq_ok_iff :
    (respond (.registry (.mark authorization path etag)) b).1 = .ok () ↔ b.fileState path = some .created := by
  simp only [respond, FileRegistry.respond, FileRegistry.mark, fileState]
  split
  · next h => simp [h]
  · next h => simp [h]
  · next h => simp [h]

lemma fileState_respond_eq_uploaded_iff : (respond c b).2.fileState path = some .uploaded ↔
    b.fileState path = some .uploaded ∨
      b.fileState path = some .created ∧ ∃ authorization etag, c = .registry (.mark authorization path etag) := by
  cases c with
  | registry c =>
    cases c with
    | register authorization m =>
      simp only [respond, FileRegistry.respond, FileRegistry.register, fileState]
      split
      · simp
      · next h =>
        by_cases hp : path = m.path
        · subst hp
          simp [h, Table.get?_insert]
        · simp [Table.get?_insert, hp]
    | mark authorization q etag =>
      by_cases hp : path = q
      · subst hp
        rw [fileState_mark]
        cases b.fileState path with
        | none => simp
        | some state => cases state <;> simp
      · simp only [respond, FileRegistry.respond, FileRegistry.mark, fileState]
        split <;> simp [Table.get?_insert, hp, Ne.symm hp]
    | find authorization q => simp [respond, FileRegistry.respond, fileState]
    | check => simp [respond, FileRegistry.respond, fileState]
  | storage c => simp [respond, fileState]
  | secret c => simp [respond, fileState]
  | freshKey =>
    simp only [respond, fileState]
    split <;> simp

end Backends

def Faults.FailingMarks (f : Faults) : Prop := ∀ fault ∈ f.mark, fault.answer ≠ some (.ok ())

lemma Activity.bind_of_none {σ α β : Type} {x : Activity σ α} {deadline : Option Nat} {m m' : Moment σ}
    (h : x deadline m = (none, m')) (f : α → Activity σ β) : (x >>= f) deadline m = (none, m') := by
  change Activity.bind x f deadline m = _
  rw [Activity.bind, h]

lemma Activity.exists_wait_eq {σ : Type} (duration : Nat) (deadline : Option Nat) (m : Moment σ) :
    ∃ result clock, wait duration deadline m = (result, ⟨clock, m.world⟩) := by
  cases deadline with
  | none => exact ⟨_, _, rfl⟩
  | some limit =>
    rw [wait]
    split <;> exact ⟨_, _, rfl⟩

namespace Rehearsal

variable {c : Call} {deadline : Option Nat} {m : Moment Rehearsal}

inductive Performs (c : Call) (r : Rehearsal) : Option c.Answer → Rehearsal → Prop
  | dropped {r' : Rehearsal} : r'.backends = r.backends → r'.faults = (Faults.next c r.faults).2 → Performs c r none r'
  | injected {a : c.Answer} {r' : Rehearsal} : r'.backends = r.backends → r'.faults = (Faults.next c r.faults).2 →
      (Faults.next c r.faults).1.answer = some a → Performs c r (some a) r'
  | served {a : c.Answer} {r' : Rehearsal} : Backends.respond c r.backends = (a, r'.backends) →
      r'.faults = (Faults.next c r.faults).2 → Performs c r (some a) r'

lemma performs (c : Call) (deadline : Option Nat) (m : Moment Rehearsal) :
    Performs c m.world (perform c deadline m).1 (perform c deadline m).2.world := by
  have hannounce : Activity.act (announce c) deadline m = (some (announce c m.world).1, ⟨m.clock, (announce c m.world).2⟩) :=
    rfl
  obtain ⟨result, clock, hwait⟩ := Activity.exists_wait_eq (announce c m.world).1.delay deadline
    ⟨m.clock, (announce c m.world).2⟩
  rw [perform, Activity.bind_of hannounce]
  cases result with
  | none =>
    rw [Activity.bind_of_none hwait]
    exact .dropped rfl rfl
  | some u =>
    rw [Activity.bind_of hwait]
    cases hanswer : (announce c m.world).1.answer with
    | some a => exact .injected rfl rfl hanswer
    | none => exact .served rfl rfl

end Rehearsal

/-- One of several requests: its rehearsal, and what the others will have made of the backends by each of its calls. -/
structure Crowd where
  rehearsal : Rehearsal
  found : List Backends

namespace Crowd

def arrive (w : Crowd) : Rehearsal := { w.rehearsal with backends := w.found.headD w.rehearsal.backends }

def perform (c : Call) : Activity Crowd c.Answer := fun deadline m =>
  let (answer, m') := Rehearsal.perform c deadline ⟨m.clock, m.world.arrive⟩
  (answer, ⟨m'.clock, m'.world, m.world.found.tail⟩)

def deployment (config : Config) : Deployment Crowd where
  config
  objectUrl := Storage.memoryUrl config.bucket
  perform

theorem simulates_rehearsal (config : Config) :
    (deployment config).Simulates (fun w r => w.rehearsal = r ∧ w.found = []) (Rehearsal.deployment config) where
  config := rfl
  objectUrl := rfl
  perform q := by
    rintro deadline clock ⟨rehearsal, found⟩ _ ⟨rfl, hfound⟩
    cases hfound
    exact .intro _ _ ⟨rfl, rfl⟩

variable {config : Config} {w w' : Crowd} {q : Call}

lemma performs {result : Option q.Answer} {deadline : Option Nat} {clock clock' : Nat}
    (h : (deployment config).perform q deadline ⟨clock, w⟩ = (result, ⟨clock', w'⟩)) :
    Rehearsal.Performs q w.arrive result w'.rehearsal ∧ w'.found = w.found.tail := by
  have hperforms := Rehearsal.performs q deadline ⟨clock, w.arrive⟩
  change perform q deadline ⟨clock, w⟩ = _ at h
  rw [perform] at h
  generalize Rehearsal.perform q deadline ⟨clock, w.arrive⟩ = run at h hperforms
  cases h
  exact ⟨hperforms, rfl⟩

lemma arrive_eq (h : w.found = []) : w.arrive = w.rehearsal := by
  obtain ⟨rehearsal, found⟩ := w
  cases h
  rfl

end Crowd

namespace Step

def arrived (s : Step Crowd) : Backends := s.before.arrive.backends

def left (s : Step Crowd) : Backends := s.after.rehearsal.backends

inductive Genuine (s : Step Crowd) : Prop
  | served : Backends.respond s.call s.arrived = (s.answer, s.left) → Genuine s
  | injected : s.left = s.arrived → (∀ x, (s.exchange x).marks = false) → Genuine s

def Uploads (s : Step Crowd) (path : String) : Prop :=
  s.arrived.fileState path ≠ some .uploaded ∧ s.left.fileState path = some .uploaded

structure Completes (s : Step Crowd) (path : String) : Prop where
  call : ∃ authorization etag, s.call = .registry (.mark authorization path etag)
  created : s.arrived.fileState path = some .created
  uploaded : s.left.fileState path = some .uploaded

variable {s : Step Crowd} {path : String} {x : Upload.Request}

lemma Completes.uploads (h : s.Completes path) : s.Uploads path := by
  refine ⟨?_, h.uploaded⟩
  rw [h.created]
  exact nofun

namespace Genuine

lemma kept (h : s.Genuine) (hu : s.arrived.fileState path = some .uploaded) : s.left.fileState path = some .uploaded := by
  cases h with
  | served h =>
    have hleft := Backends.fileState_respond_eq_uploaded_iff s.arrived s.call path
    rw [h] at hleft
    exact hleft.mpr (.inl hu)
  | injected h _ => rwa [h]

lemma completes_of_uploads (h : s.Genuine) (hu : s.Uploads path) : s.Completes path ∧ (s.exchange x).marks = true := by
  obtain ⟨hnot, huploaded⟩ := hu
  cases h with
  | injected h _ =>
    rw [h] at huploaded
    exact absurd huploaded hnot
  | served h =>
    have hleft := Backends.fileState_respond_eq_uploaded_iff s.arrived s.call path
    rw [h] at hleft
    rcases hleft.mp huploaded with hu | ⟨hcreated, authorization, etag, hcall⟩
    · exact absurd hu hnot
    · refine ⟨⟨⟨authorization, etag, hcall⟩, hcreated, huploaded⟩, ?_⟩
      obtain ⟨before, call, answer, after⟩ := s
      dsimp only at hcall
      subst hcall
      obtain rfl : answer = .ok () :=
        (congrArg Prod.fst h).symm.trans ((Backends.mark_eq_ok_iff _ authorization path etag).mpr hcreated)
      rfl

lemma completes_of_marks {authorization : Option String} {etag : String} (h : s.Genuine)
    (hcall : s.call = .registry (.mark authorization path etag)) (hmarks : (s.exchange x).marks = true) :
    s.Completes path := by
  cases h with
  | injected _ h =>
    rw [h x] at hmarks
    cases hmarks
  | served h =>
    obtain ⟨before, call, answer, after⟩ := s
    dsimp only at hcall
    subst hcall
    cases answer with
    | error e => cases hmarks
    | ok u =>
      have hcreated := (Backends.mark_eq_ok_iff before.arrive.backends authorization path etag).mp (congrArg Prod.fst h)
      refine ⟨⟨authorization, etag, rfl⟩, hcreated, ?_⟩
      calc after.rehearsal.backends.fileState path
        _ = (Backends.respond (.registry (.mark authorization path etag)) before.arrive.backends).2.fileState path :=
          congrArg (fun run => run.2.fileState path) h.symm
        _ = (before.arrive.backends.fileState path).map fun _ => .uploaded := Backends.fileState_mark _ _ _ _
        _ = some .uploaded := by rw [hcreated]; rfl

end Genuine

end Step

namespace Faults

variable {f : Faults} (h : f.FailingMarks)

include h

lemma failingMarks_next (c : Call) : (next c f).2.FailingMarks := by
  cases c with
  | registry c =>
    cases c with
    | mark => exact fun fault hfault => h fault (List.mem_of_mem_tail hfault)
    | _ => exact h
  | storage c => cases c <;> exact h
  | secret c => cases c <;> exact h
  | freshKey => exact h

lemma marks_of_next {c : Call} {a : c.Answer} (ha : (next c f).1.answer = some a) (x : Upload.Request) :
    Exchange.marks ⟨x, c, a⟩ = false := by
  cases c with
  | registry c =>
    cases c with
    | mark authorization path etag =>
      cases a with
      | error e => rfl
      | ok u =>
        change (f.mark.headD .none).answer = some (.ok ()) at ha
        cases hf : f.mark with
        | nil =>
          rw [hf] at ha
          cases ha
        | cons fault rest =>
          rw [hf] at ha
          exact absurd ha (h fault (hf ▸ List.mem_cons_self))
    | _ => rfl
  | storage c => cases c <;> rfl
  | secret c => cases c <;> rfl
  | freshKey => rfl

end Faults

namespace Crowd

variable {config : Config} {w w' : Crowd} {q : Call}

def Fair (w : Crowd) (steps : List (Step Crowd)) : Prop := w.rehearsal.faults.FailingMarks ∧ ∀ s ∈ steps, s.Genuine

lemma keeps_fair (config : Config) : (deployment config).Keeps Fair where
  answered := by
    rintro w w' q a steps ⟨deadline, clock, clock', hperform⟩ ⟨hf, hsteps⟩
    obtain ⟨hperforms, -⟩ := performs hperform
    cases hperforms with
    | injected hbackends hfaults hanswer =>
      refine ⟨?_, List.forall_mem_cons.mpr ⟨.injected hbackends fun x => ?_, hsteps⟩⟩
      · rw [hfaults]
        exact Faults.failingMarks_next hf q
      · exact Faults.marks_of_next hf hanswer x
    | served hrespond hfaults =>
      refine ⟨?_, List.forall_mem_cons.mpr ⟨.served hrespond, hsteps⟩⟩
      rw [hfaults]
      exact Faults.failingMarks_next hf q
  dropped := by
    rintro w w' q steps ⟨deadline, clock, clock', hperform⟩ ⟨hf, hsteps⟩
    obtain ⟨hperforms, -⟩ := performs hperform
    cases hperforms with
    | dropped _ hfaults =>
      refine ⟨?_, hsteps⟩
      rw [hfaults]
      exact Faults.failingMarks_next hf q

end Crowd

end ResumableUpload
