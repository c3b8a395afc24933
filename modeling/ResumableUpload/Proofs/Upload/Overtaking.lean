import ResumableUpload.Proofs.Upload.Alone

/-! An upload that is overtaken. It has asked for the object of its file and found none, and before its next call
another upload comes and goes. -/

namespace ResumableUpload.Upload

variable {policy : UploadPolicy} {t : Traffic} {r r' : Request} {result result' : Except UploadError Completion}
  {h h' : Holding} {key : Option EncryptionKey}

lemma Stage.Ends.moves {i : Nat} {s : Stage} {d : Procedure (Except UploadError Completion)}
    (hi : t.flights[i]? = some ⟨r, some d⟩) (hd : Leads policy r .returned s d)
    (he : s.Ends policy r Backends.respond t.backends result h) : ∃ t', Relation.ReflTransGen (Move policy) t t' ∧
      t'.flights = t.flights.set i ⟨r, some (.done result)⟩ ∧
      t'.holding policy = Function.update (t.holding policy) r.path h := by
  obtain ⟨b', hrun, hb'⟩ := he d hd
  have hanswer : ∀ {t : Traffic} {i : Nat} {q : Call} {next}, t.flights[i]? = some ⟨r, some (.ask q next)⟩ →
      Move policy t (t.resume i r q (Backends.respond q t.backends).1 next (Backends.respond q t.backends).2) :=
    fun hi => .answer hi
  obtain ⟨t', hs, hb, hf⟩ := reaches_of_run hanswer hi
  rw [hrun] at hb hf
  refine ⟨t', hs, hf, ?_⟩
  funext path
  rw [Traffic.holding, hb, hb']
  rfl

namespace Request

lemma moves_probed (hin : r.chunk.InRange) (hf : r.chunk.isFirst = false) (hl : r.chunk.isFinal = true)
    (ho : (t.holding policy r.path).object = none) : ∃ t' d, Relation.ReflTransGen (Move policy) t t' ∧
      t'.backends = t.backends ∧ t'.flights = t.flights ++ [⟨r, some d⟩] ∧
      Leads policy r .returned (.entry policy r) d := by
  have hstart : Stage.start policy r = .probe := by
    rw [Stage.start, r.chunk.checkPosition_eq_ok_iff.mpr hin]
    exact if_pos ⟨hf, hl⟩
  have hleads : Leads policy r .returned .probe (r.procedure policy) := hstart ▸ procedure_leads
  obtain ⟨next, hask, hnext⟩ := hleads.eq_ask rfl
  have hi : (t.launch policy r).flights[t.flights.length]? = some ⟨r, some (.ask (.storage (.head r.path)) next)⟩ := by
    simp [Traffic.launch, hask]
  have hmove : Move policy (t.launch policy r) _ := .answer hi
  have hmissing : Backends.respond (.storage (.head r.path)) (t.launch policy r).backends =
      (.error (.notFound r.path), t.backends) := Backends.respond_head_of_none ho
  rw [hmissing] at hmove
  refine ⟨_, _, .head (.launch r) (.single hmove), rfl, ?_, hnext (.error (.notFound r.path))⟩
  simp [Traffic.resume, Traffic.launch]

theorem moves_overtaken (hin : r.chunk.InRange) (hf : r.chunk.isFirst = false) (hl : r.chunk.isFinal = true)
    (ho : (t.holding policy r.path).object = none) (hp : r'.path = r.path)
    (hr' : r'.Leaves policy t.backends result' h') (he : ∀ b : Backends, b.holding policy.keyRoot r.path = h' →
      (Stage.entry policy r).Ends policy r Backends.respond b result h) :
    ∃ t', Relation.ReflTransGen (Move policy) t t' ∧
      t'.flights = t.flights ++ [⟨r, some (.done result)⟩, ⟨r', some (.done result')⟩] ∧
      t'.holding policy = Function.update (t.holding policy) r.path h := by
  obtain ⟨t₁, d, hs₁, hb₁, hf₁, hd⟩ := moves_probed hin hf hl ho
  have hsame : t₁.holding policy = t.holding policy := by
    funext path
    rw [Traffic.holding, hb₁, Traffic.holding]
  rw [← hb₁] at hr'
  obtain ⟨t₂, hs₂, hh₂, hf₂⟩ := hr'.moves
  rw [hsame, hp] at hh₂
  have hi : t₂.flights[t.flights.length]? = some ⟨r, some d⟩ := by
    simp [hf₂, hf₁]
  have hends := he t₂.backends ((congrFun hh₂ r.path).trans (Function.update_self _ _ _))
  obtain ⟨t₃, hs₃, hf₃, hh₃⟩ := hends.moves hi hd
  refine ⟨t₃, (hs₁.trans hs₂).trans hs₃, ?_, ?_⟩
  · rw [hf₃, hf₂, hf₁]
    simp
  · rw [hh₃, hh₂, Function.update_idem]

lemma exists_overtaken (policy : UploadPolicy) : ∃ t, Smooth policy (.withKeys []) t ∧
    t.flights = [⟨least 1 2, some (.done (.ok .continuing))⟩, ⟨latter, some (.done (.ok .continuing))⟩,
      ⟨latter, some (.done (.ok .completed))⟩] ∧
    (t.holding policy "a").parts.numbers = [2] ∧ (t.holding policy "a").object.isSome = true ∧
    (t.holding policy "a").uploaded = true := by
  obtain ⟨key, hkey, hbody⟩ := Backends.exists_provides (List.forall_mem_nil _) policy
  obtain ⟨first, hfirst⟩ := hbody (least 1 2).chunk (least 1 2).payload
  obtain ⟨second, hsecond⟩ := hbody latter.chunk latter.payload
  have hin : latter.chunk.InRange := by decide
  have opens : ∀ {h : Holding}, h.key = key.map EncryptionKey.toHex → h.Opens policy key := fun hh => .of_toHex hkey hh
  have hvacant : (Backends.withKeys []).holding policy.keyRoot "a" = .vacant := Backends.holding_withKeys _ _ _
  have hopened : (least 1 2).Leaves policy (Traffic.quiet (.withKeys [])).backends _ _ :=
    leaves_opened policy (by decide) rfl hvacant hkey (least_sizeAdmissible 1 2) hfirst (by decide)
  obtain ⟨t₁, hs₁, hh₁, hf₁⟩ := hopened.moves_here
  have hcompleted : latter.Leaves policy t₁.backends (.ok .completed) _ :=
    leaves_completed policy hh₁ hin rfl (.inr rfl) (opens rfl) (.inl rfl) hsecond (Nat.le_refl 2) rfl rfl
  obtain ⟨t₂, hs₂, hf₂, hh₂⟩ := moves_overtaken hin rfl rfl (congrArg Holding.object hh₁) rfl hcompleted fun b hb =>
    .entry_stored hb rfl (opens rfl) (.inl rfl) hsecond (Nat.lt_succ_self 1)
  have hh := (congrFun hh₂ "a").trans (Function.update_self _ _ _)
  refine ⟨t₂, hs₁.trans hs₂, by rw [hf₂, hf₁]; rfl, ?_, ?_, ?_⟩ <;> rw [hh] <;> rfl

end Request

end ResumableUpload.Upload
