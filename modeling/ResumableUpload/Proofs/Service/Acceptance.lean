import ResumableUpload.Proofs.Service.Codes
import ResumableUpload.Proofs.Service.Tracing
import ResumableUpload.Proofs.Upload.Verdict

/-! The answer that says that a mark was accepted, over backends of any kind. -/

namespace ResumableUpload

open Service (Failure Reply)
open Upload (Exchange Leads Stage)

namespace Upload.Request

variable {σ : Type} {policy : UploadPolicy} {x : Request} {answers : σ → (q : Call) → q.Answer → σ → Prop} {w w' : σ}
  {log : List Exchange} {p : Procedure (Except UploadError Completion)}

lemma Reaches.concerned (h : x.Reaches policy answers w log p w') : ∀ y ∈ log, x.Concerns policy y.call := by
  obtain ⟨-, -, -, hlog⟩ := h.kept (I := fun log _ _ => ∀ y ∈ log, x.Concerns policy y.call) (List.forall_mem_nil _)
    fun hlog hfits hn _ => List.forall_mem_cons.mpr ⟨concerns_next hfits hn, hlog⟩
  exact hlog

lemma Reaches.marks_eq_false {q : Call} {next} (h : x.Reaches policy answers w log (.ask q next) w') :
    ∀ y ∈ log, y.marks = false := by
  obtain ⟨stage, hleads, htold⟩ := h.told
  intro y hy
  refine Bool.eq_false_iff.mpr fun hmarks => ?_
  -- an accepted mark ends the upload, and here it has another call to make
  obtain rfl := htold.settled y hy _ (.marked hmarks)
  cases hleads with
  | ask hq _ => cases hq

end Upload.Request

namespace Deployment

variable {σ : Type} {d : Deployment σ} {x : Upload.Request} {r : Http.Request} {w w' : σ} {log : List Exchange}

lemma status_fail_ne (f : Failure) : (d.fail f).status ≠ 201 := by
  have hle := Failure.le_status_reply d.exposeDetails f
  rw [fail]
  omega

lemma status_uploadReply (result : Except UploadError Completion) :
    (d.uploadReply result).status = 201 ↔ result = .ok .completed := by
  cases result with
  | error e => exact iff_of_false (status_fail_ne _) nofun
  | ok c =>
    cases c with
    | completed => exact iff_of_true rfl rfl
    | continuing => exact iff_of_false (show (200 : Nat) ≠ 201 by decide) nofun
    | unrecorded e => exact iff_of_false (status_fail_ne _) nofun

lemma Ends.concerned {result : Option (Except UploadError Completion)} (h : d.Ends x w log result w') :
    ∀ y ∈ log, x.Concerns d.config.policy y.call := by
  cases h with
  | answered h => exact h.concerned
  | overdue h _ => exact h.concerned

lemma Ends.completed_iff {result : Option (Except UploadError Completion)} (h : d.Ends x w log result w') :
    result = some (.ok .completed) ↔ ∃ y ∈ log, y.marks = true := by
  cases h with
  | answered h =>
    obtain ⟨stage, hleads, htold⟩ := h.told
    obtain rfl := hleads.stage_eq
    rw [Option.some_inj]
    exact htold.judged.completed
  | overdue h _ =>
    refine iff_of_false nofun ?_
    rintro ⟨y, hy, hmarks⟩
    rw [h.marks_eq_false y hy] at hmarks
    cases hmarks

variable {v : σ × List (Step σ)} {reply : Reply}

lemma Serves.concerned (h : d.traced.Serves r (w, []) reply v) :
    ∀ s ∈ v.2, ∃ x, d.reading r = .ok x ∧ x.Concerns d.config.policy s.call := by
  have hends : ∀ {x log result}, d.reading r = .ok x → d.traced.Ends x (w, []) log result v →
      ∀ s ∈ v.2, ∃ x, d.reading r = .ok x ∧ x.Concerns d.config.policy s.call := by
    intro x log result hx hends s hs
    refine ⟨x, hx, hends.concerned (s.exchange x) ?_⟩
    rw [← exchanges_of_ends hends]
    exact List.mem_map_of_mem hs
  cases h with
  | tooLong | unread _ => exact List.forall_mem_nil _
  | answered hx h => exact hends hx h
  | overdue hx h => exact hends hx h

theorem Serves.created_iff (h : d.traced.Serves r (w, []) reply v) : reply.status = 201 ↔
    ∃ x, d.reading r = .ok x ∧ ∃ s ∈ v.2, (s.exchange x).marks = true := by
  have hends : ∀ {x log result}, d.reading r = .ok x → d.traced.Ends x (w, []) log result v →
      ((∃ x, d.reading r = .ok x ∧ ∃ s ∈ v.2, (s.exchange x).marks = true) ↔ result = some (.ok .completed)) := by
    intro x log result hx hends
    rw [hends.completed_iff, ← exchanges_of_ends hends]
    simp only [List.mem_map, exists_exists_and_eq_and]
    constructor
    · rintro ⟨y, hy, hmarks⟩
      obtain rfl := Except.ok.inj (hy.symm.trans hx)
      exact hmarks
    · exact fun hmarks => ⟨x, hx, hmarks⟩
  have hidle : ¬ ∃ x, d.reading r = .ok x ∧ ∃ s ∈ ([] : List (Step σ)), (s.exchange x).marks = true := by
    rintro ⟨x, -, s, hs, -⟩
    cases hs
  cases h with
  | tooLong => exact iff_of_false (by decide) hidle
  | unread _ => exact iff_of_false (status_fail_ne _) hidle
  | answered hx h =>
    rw [hends hx h, Option.some_inj]
    exact status_uploadReply _
  | overdue hx h =>
    rw [hends hx h]
    exact iff_of_false (status_fail_ne _) nofun

end Deployment

end ResumableUpload
