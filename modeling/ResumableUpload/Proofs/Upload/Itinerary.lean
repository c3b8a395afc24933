import ResumableUpload.Proofs.Upload.Transcript

/-! The order in which an upload makes its calls. Each kind of chunk has a list of errands that are run one after
the other until one of them fails, and a part is stored under the key that the same upload has made or read. -/

namespace ResumableUpload.Upload

/-- What an upload asks of its backends. -/
inductive Errand
  | register
  | draw
  | deposit
  | fetch
  | put
  | look
  | mark
deriving DecidableEq, Repr

def errand? : Call → Option Errand
  | .registry (.register ..) => some .register
  | .freshKey => some .draw
  | .secret (.write ..) => some .deposit
  | .secret (.read ..) => some .fetch
  | .storage (.put ..) => some .put
  | .storage (.head _) => some .look
  | .registry (.mark ..) => some .mark
  | _ => none

namespace Exchange

def errand? (x : Exchange) : Option Errand := Upload.errand? x.call

def succeeds : Exchange → Bool
  | ⟨_, .registry (.register ..), .ok ()⟩ => true
  | ⟨_, .freshKey, .ok _⟩ => true
  | ⟨_, .secret (.write ..), .ok ()⟩ => true
  | ⟨_, .secret (.read ..), .ok text⟩ => (EncryptionKey.ofHex text).isOk
  | ⟨_, .storage (.put ..), .ok receipt⟩ => receipt.complete
  | ⟨_, .storage (.head _), .ok head⟩ => head.etag.isSome
  | ⟨_, .registry (.mark ..), .ok ()⟩ => true
  | _ => false

end Exchange

namespace Errand

variable (policy : UploadPolicy) (c : Chunk)

def keying : List Errand := if policy.keyRoot.isNone then [] else if c.isFirst then [draw, deposit] else [fetch]

def closing : List Errand :=
  match policy.digest with
  | .part => [mark]
  | .head => [look, mark]

def storing : List Errand := (if c.isFirst then [register] else []) ++ (keying policy c ++ put :: closing policy)

/-- The errands are run in order, and nothing follows one that has failed; when it is `finished`, all were run or the
last one has failed. -/
structure Run (finished : Prop) (plan : List Errand) (log : List Exchange) : Prop where
  asked : log.reverse.map Exchange.errand? <+: plan.map some
  onward : ∀ x ∈ log.tail, x.succeeds = true
  ended : finished → log.length = plan.length ∨ ∃ x ∈ log.head?, x.succeeds = false

end Errand

namespace Request

variable (policy : UploadPolicy) (r : Request)

def Probes : Prop := r.chunk.isFirst = false ∧ r.chunk.isFinal = true

inductive Way (runs : List Errand → List Exchange → Prop) : List Exchange → Prop
  | outside {log : List Exchange} : ¬ r.chunk.InRange → runs [] log → Way runs log
  | direct {log : List Exchange} : r.chunk.InRange → ¬ r.Probes → runs (Errand.storing policy r.chunk) log → Way runs log
  | probing : r.chunk.InRange → r.Probes → runs [.look] [] → Way runs []
  | found {log rest : List Exchange} {head : ObjectHead} : r.chunk.InRange → r.Probes →
      log = rest ++ [⟨r, .storage (.head r.path), .ok head⟩] →
      runs (if head.etag.isSome then [.mark] else []) rest → Way runs log
  | missing {log rest : List Exchange} {e : StorageError} : r.chunk.InRange → r.Probes →
      log = rest ++ [⟨r, .storage (.head r.path), .error e⟩] → runs (Errand.storing policy r.chunk) rest →
      Way runs log

def Concerns : Call → Prop
  | .registry (.register authorization m) => authorization = r.authorization ∧ m = r.metadata
  | .registry (.mark authorization path _) => authorization = r.authorization ∧ path = r.path
  | .secret (.write path name _) | .secret (.read path name) =>
    ∃ root, policy.keyRoot = some root ∧ path = Keys.secretPath root r.path ∧ name = Keys.entryName
  | .storage (.put path chunk payload _) => path = r.path ∧ chunk = r.chunk ∧ payload = r.payload
  | .storage (.head path) => path = r.path
  | .freshKey => policy.keyRoot.isSome = true
  | _ => False

inductive Holds (log : List Exchange) : Option EncryptionKey → Prop
  | nothing : policy.keyRoot = none → Holds log none
  | made {root : String} {k : EncryptionKey} : policy.keyRoot = some root → r.chunk.isFirst = true →
      ⟨r, .freshKey, .ok k⟩ ∈ log →
      ⟨r, .secret (.write (Keys.secretPath root r.path) Keys.entryName k.toHex), .ok ()⟩ ∈ log → Holds log (some k)
  | read {root text : String} {k : EncryptionKey} : policy.keyRoot = some root → r.chunk.isFirst = false →
      ⟨r, .secret (.read (Keys.secretPath root r.path) Keys.entryName), .ok text⟩ ∈ log →
      EncryptionKey.ofHex text = .ok k → Holds log (some k)

structure Itinerary (finished : Prop) (log : List Exchange) : Prop where
  way : r.Way policy (Errand.Run finished) log
  concerns : ∀ x ∈ log, r.Concerns policy x.call
  registered : log.countP (fun x => x.errand? = some .register) ≤ 1
  marked : log.countP (fun x => x.errand? = some .mark) ≤ 1
  keyed : (∃ x ∈ log, x.errand? = some .draw) → ∀ x ∈ log, x.errand? ≠ some .fetch
  unspoiled : ∀ {later earlier : List Exchange} {x : Exchange}, log = later ++ x :: earlier → x.errand? = some .put →
    ∀ y ∈ earlier, y.errand? ≠ some .look → y.succeeds = true
  key : ∀ x ∈ log, ∀ {path chunk payload key}, x.call = .storage (.put path chunk payload key) → r.Holds policy log key

end Request

namespace Stage

variable {policy : UploadPolicy} {r : Request} {plan : List Errand} {log : List Exchange} {s s' : Stage}

open Errand in
def errands (policy : UploadPolicy) (c : Chunk) : Stage → List Errand
  | probe => [.look]
  | register => .register :: (keying policy c ++ .put :: closing policy)
  | draw _ => .draw :: .deposit :: .put :: closing policy
  | deposit .. => .deposit :: .put :: closing policy
  | fetch _ => .fetch :: .put :: closing policy
  | put _ => .put :: closing policy
  | inspect => [.look, .mark]
  | mark _ => [.mark]
  | finished _ => []

lemma errands_keyed : (keyed policy r).errands policy r.chunk =
    Errand.keying policy r.chunk ++ .put :: Errand.closing policy := by
  rw [keyed, Errand.keying]
  cases policy.keyRoot with
  | none => rfl
  | some root => cases r.chunk.isFirst <;> rfl

lemma errands_entry : (entry policy r).errands policy r.chunk = Errand.storing policy r.chunk := by
  rw [entry, Errand.storing]
  cases r.chunk.isFirst with
  | false => exact errands_keyed
  | true => rfl

lemma errands_assembled (receipt : PartReceipt) :
    (assembled policy receipt).errands policy r.chunk = Errand.closing policy := by
  rw [assembled, Errand.closing]
  cases policy.digest <;> rfl

lemma errands_completing (head : ObjectHead) :
    (completing (etagOf r.path head)).errands policy r.chunk = if head.etag.isSome then [.mark] else [] := by
  rw [etagOf]
  cases head.etag <;> rfl

lemma errands_next {q : Call} {a : q.Answer} (h : s.Next policy r q a s') (hs : s ≠ probe) :
    ∃ e rest, s.errands policy r.chunk = e :: rest ∧ errand? q = some e ∧
      (Exchange.succeeds ⟨r, q, a⟩ = true ∧ s'.errands policy r.chunk = rest ∨
        Exchange.succeeds ⟨r, q, a⟩ = false ∧ ∃ result, s' = finished result) := by
  cases h with
  | found _ | missing _ => exact absurd rfl hs
  | registered => exact ⟨_, _, rfl, rfl, .inl ⟨rfl, errands_keyed⟩⟩
  | drawn _ | deposited | marked => exact ⟨_, _, rfl, rfl, .inl ⟨rfl, rfl⟩⟩
  | fetched hk => exact ⟨_, _, rfl, rfl, .inl ⟨by rw [Exchange.succeeds, hk]; rfl, rfl⟩⟩
  | garbled hk => exact ⟨_, _, rfl, rfl, .inr ⟨by rw [Exchange.succeeds, hk]; rfl, _, rfl⟩⟩
  | stored hc => exact ⟨_, _, rfl, rfl, .inr ⟨hc, _, rfl⟩⟩
  | assembled hc => exact ⟨_, _, rfl, rfl, .inl ⟨hc, errands_assembled _⟩⟩
  | inspected head =>
    refine ⟨_, _, rfl, rfl, ?_⟩
    simp only [Exchange.succeeds, etagOf]
    cases head.etag with
    | none => exact .inr ⟨rfl, _, rfl⟩
    | some etag => exact .inl ⟨rfl, rfl⟩
  | _ => exact ⟨_, _, rfl, rfl, .inr ⟨rfl, _, rfl⟩⟩

inductive Has (policy : UploadPolicy) (c : Chunk) (s : Stage) (plan : List Errand) (log : List Exchange) : Prop
  | onward : log.reverse.map Exchange.errand? ++ (s.errands policy c).map some = plan.map some →
      (∀ x ∈ log, x.succeeds = true) → Has policy c s plan log
  | stopped {result : Except UploadError Completion} : s = finished result → Errand.Run True plan log →
      Has policy c s plan log

lemma Has.next {q : Call} {a : q.Answer} (h : s.Has policy r.chunk plan log) (hn : s.Next policy r q a s')
    (hs : s ≠ probe) : s'.Has policy r.chunk plan (⟨r, q, a⟩ :: log) := by
  cases h with
  | stopped hf _ =>
    subst hf
    cases hn
  | onward hplan hall =>
    obtain ⟨e, rest, hs, he, ⟨hx, hrest⟩ | ⟨hx, result, hf⟩⟩ := errands_next hn hs
    · refine .onward ?_ (List.forall_mem_cons.mpr ⟨hx, hall⟩)
      rw [← hplan, hs, hrest]
      simp [Exchange.errand?, he]
    · refine .stopped hf ⟨⟨rest.map some, ?_⟩, hall, fun _ => .inr ⟨_, rfl, hx⟩⟩
      rw [← hplan, hs]
      simp [Exchange.errand?, he]

lemma Has.run {finished : Prop} (h : s.Has policy r.chunk plan log)
    (hf : finished → ∃ result, s = .finished result) : Errand.Run finished plan log := by
  cases h with
  | onward hplan hall =>
    refine ⟨⟨_, hplan⟩, fun x hm => hall x (List.mem_of_mem_tail hm), fun hfin => .inl ?_⟩
    obtain ⟨result, rfl⟩ := hf hfin
    simpa [errands] using congrArg List.length hplan
  | stopped _ hrun => exact ⟨hrun.asked, hrun.onward, fun _ => hrun.ended trivial⟩

lemma Has.eq_probe {c : Chunk} (h : s.Has policy c [.look] []) : s = probe := by
  cases h with
  | onward hplan _ => cases s <;> simp_all [errands]
  | stopped _ hrun => simpa using hrun.ended trivial

lemma entry_ne_probe : entry policy r ≠ probe :=
  entry_of (P := (· ≠ probe)) (fun _ => nofun) (fun _ _ => nofun) fun _ _ _ => nofun

lemma completing_ne_probe (etag : Except UploadError String) : completing etag ≠ probe := by
  cases etag <;> exact nofun

lemma keyed_ne_probe : keyed policy r ≠ probe :=
  keyed_of (P := (· ≠ probe)) (fun _ => nofun) (fun _ _ _ => nofun) fun _ _ _ => nofun

lemma Next.ne_probe {q : Call} {a : q.Answer} (h : s.Next policy r q a s') : s' ≠ probe := by
  cases h with
  | found _ | inspected _ => exact completing_ne_probe _
  | missing _ => exact entry_ne_probe
  | registered => exact keyed_ne_probe
  | assembled _ => exact assembled_of (P := (· ≠ probe)) (fun _ => nofun) fun _ => nofun
  | _ => exact nofun

end Stage

namespace Request

variable {policy : UploadPolicy} {r : Request} {log : List Exchange} {s s' : Stage} {q : Call} {a : q.Answer}

lemma Way.imp {runs runs' : List Errand → List Exchange → Prop} (h : r.Way policy runs log)
    (hr : ∀ plan log, runs plan log → runs' plan log) : r.Way policy runs' log := by
  cases h with
  | outside hin h => exact .outside hin (hr _ _ h)
  | direct hin hp h => exact .direct hin hp (hr _ _ h)
  | probing hin hp h => exact .probing hin hp (hr _ _ h)
  | found hin hp hlog h => exact .found hin hp hlog (hr _ _ h)
  | missing hin hp hlog h => exact .missing hin hp hlog (hr _ _ h)

def Moves (policy : UploadPolicy) (r : Request) (log : List Exchange) (s : Stage) : Prop :=
  (s = .probe ∧ log = [] ∧ r.chunk.InRange ∧ r.Probes) ∨ s ≠ .probe ∧ r.Way policy (s.Has policy r.chunk) log

lemma moves_start : r.Moves policy [] (.start policy r) := by
  refine Stage.start_of_position (P := r.Moves policy []) (fun e hc => ?_) (fun hin hp => .inl ⟨rfl, rfl, hin, hp⟩)
    fun hin hp => ?_
  · refine .inr ⟨nofun, .outside (fun hin => ?_) (.onward rfl (List.forall_mem_nil _))⟩
    cases hc.symm.trans (r.chunk.checkPosition_eq_ok_iff.mpr hin)
  · refine .inr ⟨Stage.entry_ne_probe, .direct hin hp (.onward ?_ (List.forall_mem_nil _))⟩
    exact congrArg (List.map some) Stage.errands_entry

lemma Way.next (h : r.Way policy (s.Has policy r.chunk) log) (hn : s.Next policy r q a s') (hs : s ≠ .probe) :
    r.Way policy (s'.Has policy r.chunk) (⟨r, q, a⟩ :: log) := by
  cases h with
  | outside hin h => exact .outside hin (h.next hn hs)
  | direct hin hp h => exact .direct hin hp (h.next hn hs)
  | probing _ _ h => exact absurd h.eq_probe hs
  | found hin hp hlog h => exact .found hin hp (congrArg _ hlog) (h.next hn hs)
  | missing hin hp hlog h => exact .missing hin hp (congrArg _ hlog) (h.next hn hs)

lemma Moves.next (h : r.Moves policy log s) (hn : s.Next policy r q a s') : r.Moves policy (⟨r, q, a⟩ :: log) s' := by
  refine .inr ⟨hn.ne_probe, ?_⟩
  rcases h with ⟨rfl, rfl, hin, hp⟩ | ⟨hs, hway⟩
  · cases hn with
    | found head =>
      refine .found hin hp (List.nil_append _).symm (.onward ?_ (List.forall_mem_nil _))
      exact congrArg (List.map some) (Stage.errands_completing head)
    | missing e =>
      refine .missing hin hp (List.nil_append _).symm (.onward ?_ (List.forall_mem_nil _))
      exact congrArg (List.map some) Stage.errands_entry
  · exact hway.next hn hs

lemma Moves.way {finished : Prop} (h : r.Moves policy log s) (hf : finished → ∃ result, s = .finished result) :
    r.Way policy (Errand.Run finished) log := by
  rcases h with ⟨rfl, rfl, hin, hp⟩ | ⟨_, hway⟩
  · refine .probing hin hp ⟨List.nil_prefix, List.forall_mem_nil _, fun hfin => ?_⟩
    obtain ⟨_, h⟩ := hf hfin
    cases h
  · exact hway.imp fun _ _ h => h.run hf

def Carries (policy : UploadPolicy) (r : Request) (log : List Exchange) : Stage → Prop
  | .deposit _ key => ⟨r, .freshKey, .ok key⟩ ∈ log
  | .put key => r.Holds policy log key
  | _ => True

lemma Holds.mono {log' : List Exchange} {key : Option EncryptionKey} (h : r.Holds policy log key) (hl : log ⊆ log') :
    r.Holds policy log' key := by
  cases h with
  | nothing hk => exact .nothing hk
  | made hk hf hfresh hwrite => exact .made hk hf (hl hfresh) (hl hwrite)
  | read hk hf hread htext => exact .read hk hf (hl hread) htext

lemma carries_keyed : r.Carries policy log (.keyed policy r) :=
  Stage.keyed_of (P := r.Carries policy log) .nothing (fun _ _ _ => trivial) fun _ _ _ => trivial

lemma carries_entry : r.Carries policy log (.entry policy r) :=
  Stage.entry_of (P := r.Carries policy log) (fun _ => trivial) (fun hk _ => .nothing hk) fun _ _ _ => trivial

lemma carries_start : r.Carries policy log (.start policy r) :=
  Stage.start_of (P := r.Carries policy log) (fun _ => trivial) (fun _ => trivial) (fun _ => trivial)
    (fun hk _ => .nothing hk) fun _ _ _ => trivial

lemma carries_completing (etag : Except UploadError String) : r.Carries policy log (.completing etag) := by
  cases etag <;> exact trivial

lemma Carries.next (h : r.Carries policy log s) (hfits : s.Fits policy r) (hn : s.Next policy r q a s') :
    r.Carries policy (⟨r, q, a⟩ :: log) s' := by
  cases hn with
  | found _ | inspected _ => exact carries_completing _
  | missing _ => exact carries_entry
  | registered => exact carries_keyed
  | drawn _ => exact List.mem_cons_self
  | deposited => exact .made hfits.2.2 hfits.2.1 (List.mem_cons_of_mem _ h) List.mem_cons_self
  | fetched hk => exact .read hfits.2.2 hfits.2.1 List.mem_cons_self hk
  | assembled _ =>
    exact Stage.assembled_of (P := r.Carries policy _) (fun _ => trivial) fun _ => trivial
  | _ => exact trivial

lemma concerns_next (hfits : s.Fits policy r) (hn : s.Next policy r q a s') : r.Concerns policy q := by
  cases hn with
  | drawn _ | undrawn _ => exact Option.isSome_iff_exists.mpr ⟨_, hfits.2.2⟩
  | deposited | undeposited _ => exact ⟨_, hfits.2.2, rfl, rfl⟩
  | fetched _ | garbled _ | unfetched _ => exact ⟨_, hfits.2.2, rfl, rfl⟩
  | stored _ | assembled _ | unstored _ => exact ⟨rfl, rfl, rfl⟩
  | registered | unregistered _ | marked | unmarked _ => exact ⟨rfl, rfl⟩
  | _ => exact rfl

lemma Carries.holds {path : String} {chunk : Chunk} {payload : Bytes} {key : Option EncryptionKey}
    (h : r.Carries policy log s) (hn : s.Next policy r q a s') (hq : q = .storage (.put path chunk payload key)) :
    r.Holds policy log key := by
  cases hn <;> cases hq <;> exact h

end Request

namespace Errand

structure Sound (plan : List Errand) : Prop where
  register : plan.count .register ≤ 1
  mark : plan.count .mark ≤ 1
  key : .draw ∈ plan → .fetch ∉ plan

lemma sound_storing (policy : UploadPolicy) (c : Chunk) : Sound (storing policy c) := by
  rw [storing, keying, closing]
  cases c.isFirst <;> cases policy.keyRoot.isNone <;> cases policy.digest <;> exact ⟨by decide, by decide, by decide⟩

lemma Sound.look {plan : List Errand} (h : Sound plan) : Sound (.look :: plan) :=
  ⟨by simpa using h.register, by simpa using h.mark, by simpa using h.key⟩

end Errand

namespace Request

variable {policy : UploadPolicy} {r : Request} {log : List Exchange} {s : Stage} {finished : Prop}

lemma Way.plan (h : r.Way policy (Errand.Run finished) log) :
    ∃ plan, log.reverse.map Exchange.errand? <+: plan.map some ∧ Errand.Sound plan := by
  have hmark : Errand.Sound [.mark] := ⟨by decide, by decide, by decide⟩
  have hnil : Errand.Sound [] := ⟨by decide, by decide, by decide⟩
  have hlook : ∀ {plan : List Errand} {rest : List Exchange} {x : Exchange}, Errand.Run finished plan rest →
      Errand.Sound plan → x.errand? = some .look →
      ∃ plan, (rest ++ [x]).reverse.map Exchange.errand? <+: plan.map some ∧ Errand.Sound plan :=
    fun hrun hs hx => ⟨.look :: _, by simpa [hx] using hrun.asked, hs.look⟩
  cases h with
  | outside _ h => exact ⟨_, h.asked, hnil⟩
  | direct _ _ h => exact ⟨_, h.asked, Errand.sound_storing policy r.chunk⟩
  | probing _ _ h => exact ⟨_, h.asked, hnil.look⟩
  | found _ _ hlog h =>
    subst hlog
    refine hlook h ?_ rfl
    split
    · exact hmark
    · exact hnil
  | missing _ _ hlog h =>
    subst hlog
    exact hlook h (Errand.sound_storing policy r.chunk) rfl

lemma Way.onward (h : r.Way policy (Errand.Run finished) log) {x : Exchange} (hx : x ∈ log.tail)
    (hl : x.errand? ≠ some .look) : x.succeeds = true := by
  -- the probe is the oldest exchange, and an upload goes on from it whether or not it finds the object
  have hprobe : ∀ {rest : List Exchange} {y : Exchange}, (∀ x ∈ rest.tail, x.succeeds = true) →
      y.errand? = some .look → x ∈ (rest ++ [y]).tail → x.succeeds = true := by
    intro rest y hrest hy hm
    cases rest with
    | nil => exact absurd hm List.not_mem_nil
    | cons z rest =>
      rcases List.mem_append.mp hm with hm | hm
      · exact hrest x hm
      · rw [List.mem_singleton.mp hm] at hl
        exact absurd hy hl
  cases h with
  | outside _ h => exact h.onward x hx
  | direct _ _ h => exact h.onward x hx
  | probing _ _ h => exact h.onward x hx
  | found _ _ hlog h =>
    subst hlog
    exact hprobe h.onward rfl hx
  | missing _ _ hlog h =>
    subst hlog
    exact hprobe h.onward rfl hx

end Request

variable {σ : Type} {policy : UploadPolicy} {r : Request} {answers : σ → (q : Call) → q.Answer → σ → Prop} {s s' : σ}
  {log : List Exchange} {d : Procedure (Except UploadError Completion)}

structure Request.OnTrack (policy : UploadPolicy) (r : Request) (log : List Exchange) (stage : Stage) : Prop where
  moves : r.Moves policy log stage
  carries : r.Carries policy log stage
  concerns : ∀ x ∈ log, r.Concerns policy x.call
  key : ∀ x ∈ log, ∀ {path chunk payload key}, x.call = .storage (.put path chunk payload key) →
    r.Holds policy log key

lemma Request.OnTrack.next {stage stage' : Stage} {q : Call} {a : q.Answer} (h : r.OnTrack policy log stage)
    (hfits : stage.Fits policy r) (hn : stage.Next policy r q a stage') :
    r.OnTrack policy (⟨r, q, a⟩ :: log) stage' := by
  refine ⟨h.moves.next hn, h.carries.next hfits hn,
    List.forall_mem_cons.mpr ⟨concerns_next hfits hn, h.concerns⟩, fun x hx path chunk payload key hput => ?_⟩
  refine Holds.mono ?_ (List.subset_cons_self _ _)
  rcases List.mem_cons.mp hx with rfl | hx
  · exact h.carries.holds hn hput
  · exact h.key x hx hput

lemma Request.onTrack_start : r.OnTrack policy [] (.start policy r) :=
  ⟨moves_start, carries_start, List.forall_mem_nil _, fun _ hx => absurd hx List.not_mem_nil⟩

lemma Errand.countP_le {plan : List Errand} (h : log.reverse.map Exchange.errand? <+: plan.map some) (e : Errand) :
    log.countP (fun x => x.errand? = some e) ≤ plan.count e := by
  have hcount := h.sublist.count_le (some e)
  rw [List.count_map_of_injective _ _ (Option.some_injective _), List.count, List.countP_map,
    List.countP_reverse] at hcount
  refine le_of_eq_of_le (List.countP_congr fun x _ => ?_) hcount
  simp

/-- Whatever is answered, an upload makes its calls in the order of its errands and stops at the first that fails. -/
theorem Request.Reaches.itinerary (h : r.Reaches policy answers s log d s') :
    r.Itinerary policy (∃ result, d = .done result) log := by
  obtain ⟨stage, hleads, -, hon⟩ := h.kept (I := fun log stage _ => r.OnTrack policy log stage) onTrack_start
    fun hon hfits hn _ => hon.next hfits hn
  have hway : r.Way policy (Errand.Run (∃ result, d = .done result)) log := by
    refine hon.moves.way fun ⟨result, hd⟩ => ?_
    subst hd
    exact ⟨result, hleads.stage_eq⟩
  obtain ⟨plan, hplan, hsound⟩ := hway.plan
  have hmem : ∀ {e}, (∃ x ∈ log, x.errand? = some e) → e ∈ plan := by
    rintro e ⟨x, hx, he⟩
    have : some e ∈ plan.map some := hplan.subset (he ▸ List.mem_map_of_mem (List.mem_reverse.mpr hx))
    simpa using this
  refine ⟨hway, hon.concerns, (Errand.countP_le hplan _).trans hsound.register,
    (Errand.countP_le hplan _).trans hsound.mark, ?_, ?_, hon.key⟩
  · exact fun hdraw x hx hfetch => hsound.key (hmem hdraw) (hmem ⟨x, hx, hfetch⟩)
  · intro later earlier x hlog _ y hy hl
    refine hway.onward ?_ hl
    subst hlog
    cases later with
    | nil => exact hy
    | cons z later => exact List.mem_append_right _ (List.mem_cons_of_mem _ hy)

theorem Request.latter_itinerary :
    ∃ d, latter.Reaches ⟨some "keys", .head⟩ (fun s _ _ s' => s = s') () latterLog d () ∧
      latter.Itinerary ⟨some "keys", .head⟩ (∃ result, d = .done result) latterLog :=
  ⟨_, latter_reaches, latter_reaches.itinerary⟩

end ResumableUpload.Upload
