import ResumableUpload.Proofs.Service.Crowd

/-! How long work takes. Work that knows its duration comes to its result unless a deadline passes before, and a call of a
rehearsal takes as long as its fault says. -/

namespace ResumableUpload

namespace Activity

variable {σ α β : Type} {x : Activity σ α} {y : Activity σ β} {m : Moment σ} {d e : Nat} {a : α} {b : β} {w w' : σ}

structure Takes (x : Activity σ α) (m : Moment σ) (duration : Nat) (a : α) (w : σ) : Prop where
  inTime : ∀ deadline : Option Nat, (∀ limit ∈ deadline, m.clock + duration ≤ limit) →
    x deadline m = (some a, ⟨m.clock + duration, w⟩)
  late : ∀ limit, m.clock ≤ limit → limit < m.clock + duration → (x (some limit) m).1 = none

namespace Takes

lemma act (f : σ → α × σ) (m : Moment σ) : (Activity.act f).Takes m 0 (f m.world).1 (f m.world).2 := by
  refine ⟨fun _ _ => rfl, fun limit hle hlt => ?_⟩
  omega

lemma done (a : α) (m : Moment σ) : (pure a : Activity σ α).Takes m 0 a m.world := act (fun w => (a, w)) m

lemma wait (duration : Nat) (m : Moment σ) : (Activity.wait duration).Takes m duration () m.world := by
  refine ⟨fun deadline h => ?_, fun limit _ hlt => ?_⟩
  · cases deadline with
    | none => rfl
    | some limit => simp [Activity.wait, h limit rfl]
  · simp [Activity.wait, Nat.not_le.mpr hlt]

lemma late_eq (h : x.Takes m d a w) {limit : Nat} (hle : m.clock ≤ limit) (hlt : limit < m.clock + d) :
    x (some limit) m = (none, (x (some limit) m).2) := Prod.ext (h.late limit hle hlt) rfl

lemma limited (h : x.Takes m d a w) (limit : Nat) :
    (x (some (m.clock + limit)) m).1 = if d ≤ limit then some a else none := by
  split
  · rw [h.inTime (some _) (by simpa)]
  · apply h.late
    · omega
    · omega

lemma bind {f : α → Activity σ β} (hx : x.Takes m d a w) (hf : (f a).Takes ⟨m.clock + d, w⟩ e b w') :
    (x >>= f).Takes m (d + e) b w' := by
  refine ⟨fun deadline h => ?_, fun limit hle hlt => ?_⟩
  · rw [bind_of (hx.inTime deadline fun limit hl => ?_), hf.inTime deadline fun limit hl => ?_]
    · simp [Nat.add_assoc]
    · have := h limit hl
      simp only [Nat.add_assoc]
      omega
    · have := h limit hl
      omega
  · by_cases hd : limit < m.clock + d
    · rw [bind_of_none (hx.late_eq hle hd)]
    · rw [bind_of (hx.inTime (some limit) (by simpa using hd))]
      apply hf.late
      · simpa using hd
      · simp only
        omega

lemma map (f : α → β) (hx : x.Takes m d a w) : (f <$> x).Takes m d (f a) w := by
  have hbind : (x >>= fun a => pure (f a)).Takes m (d + 0) (f a) w := hx.bind (done (f a) _)
  exact hbind

lemma both (hx : x.Takes m d a w) (hy : y.Takes ⟨m.clock, w⟩ e b w') : (x.both y).Takes m (max d e) (a, b) w' := by
  refine ⟨fun deadline h => ?_, fun limit hle hlt => ?_⟩
  · have hd : ∀ limit ∈ deadline, m.clock + d ≤ limit := fun limit hl => by
      have := h limit hl
      omega
    have he : ∀ limit ∈ deadline, m.clock + e ≤ limit := fun limit hl => by
      have := h limit hl
      omega
    rw [Activity.both, hx.inTime deadline hd]
    dsimp only
    rw [hy.inTime deadline he]
    simp [Nat.add_max_add_left]
  · rw [Activity.both]
    by_cases hd : limit < m.clock + d
    · rw [hx.late_eq hle hd]
      rfl
    · rw [hx.inTime (some limit) (by simpa using hd)]
      dsimp only
      have he : limit < m.clock + e := by omega
      rw [hy.late_eq hle he]
      rfl

end Takes

end Activity

namespace Rehearsal

variable {w : Rehearsal} {c : Call} {clock : Nat} {α : Type}

def delay (w : Rehearsal) (c : Call) : Nat := (Faults.next c w.faults).1.delay

def told (w : Rehearsal) (c : Call) : c.Answer :=
  (Faults.next c w.faults).1.answer.getD (Backends.respond c w.backends).1

lemma apply_told (f : c.Answer → α) :
    f (w.told c) = (Faults.next c w.faults).1.answer.elim (f (Backends.respond c w.backends).1) f := by
  rw [told]
  cases (Faults.next c w.faults).1.answer <;> rfl

def after (w : Rehearsal) (c : Call) : Rehearsal := ⟨w.backends, (Faults.next c w.faults).2, c :: w.calls⟩

lemma takes_perform (hc : (Backends.respond c w.backends).2 = w.backends) :
    (perform c).Takes ⟨clock, w⟩ (w.delay c) (w.told c) (w.after c) := by
  have hsteps : (perform c).Takes ⟨clock, w⟩ (0 + (w.delay c + 0)) (w.told c) (w.after c) := by
    unfold perform
    -- the fault decides how long the call waits, and whether the backend is asked at all
    apply (Activity.Takes.act (announce c) ⟨clock, w⟩).bind
    apply (Activity.Takes.wait (w.delay c) _).bind
    split
    · next answer ha =>
      have htold : w.told c = answer := congrArg (Option.getD · _) ha
      rw [htold]
      exact .done answer _
    · next hn =>
      have htold : w.told c = (Backends.respond c w.backends).1 := congrArg (Option.getD · _) hn
      have hact := Activity.Takes.act (respond c) ⟨clock + 0 + w.delay c, w.after c⟩
      rw [htold]
      simpa [announce, respond, after, hc] using hact
  simpa using hsteps

lemma takes_ask (hc : (Backends.respond c w.backends).2 = w.backends) (f : c.Answer → α) :
    (Activity.ofDialogue perform (.ask c fun a => .done (f a))).Takes ⟨clock, w⟩ (w.delay c) (f (w.told c)) (w.after c) :=
  (takes_perform hc).map f

end Rehearsal

end ResumableUpload
