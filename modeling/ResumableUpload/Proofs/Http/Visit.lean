import ResumableUpload.Http.Exchange
import ResumableUpload.Proofs.Dialogue

/-! What a request comes to, with the redirects that follow it. -/

namespace ResumableUpload.Http

abbrev Line := Dialogue.Line fun _ : Outgoing => Option Response

def Exchange.Ends {α : Type} (x : Exchange α) (lines : List Line) (a : α) : Prop :=
  Dialogue.Yields (fun (_ : Unit) _ _ _ => True) x () lines a ()

lemma Exchange.Ends.ask {α : Type} {q : Outgoing} {next : Option Response → Exchange α} {answer : Option Response}
    {lines : List Line} {a : α} (h : (next answer).Ends lines a) :
    Exchange.Ends (.ask q next) (⟨q, answer⟩ :: lines) a := Dialogue.Yields.ask trivial h

/-- A request and those to which it is redirected, each with its answer, and what comes of the last of them. -/
inductive Visit : Nat → Outgoing → List Line → Except TransportError Response → Prop
  | ended {hops : Nat} {q : Outgoing} {answer : Option Response} (hr : answer.bind q.redirected? = none) :
      Visit hops q [⟨q, answer⟩] (received q answer)
  | astray {q next : Outgoing} {r : Response} (hr : q.redirected? r = some next) :
      Visit 0 q [⟨q, some r⟩] (.error (.astray q.url.text))
  | misled {hops : Nat} {q next : Outgoing} {r : Response} (hr : q.redirected? r = some next)
      (hnext : next.url.isHttp = false) : Visit (hops + 1) q [⟨q, some r⟩] (.error (.malformed (some next.url.text)))
  | redirected {hops : Nat} {q next : Outgoing} {r : Response} {lines : List Line}
      {outcome : Except TransportError Response} (hr : q.redirected? r = some next) (hnext : next.url.isHttp = true)
      (hrest : Visit hops next lines outcome) : Visit (hops + 1) q (⟨q, some r⟩ :: lines) outcome

variable {method target : String} {headers : List (String × String)} {payload : Payload} {hops : Nat} {q : Outgoing}
  {lines : List Line} {answer : Option Response} {r : Response} {outcome : Except TransportError Response}

lemma redirected?_eq_none (h : r.status < 300 ∨ 400 ≤ r.status) : q.redirected? r = none := by
  have hread : r.status ∉ [301, 302, 303] := by grind
  have hrepeat : r.status ∉ [307, 308] := by grind
  rw [Outgoing.redirected?]
  cases r.location.filter Url.isSendable with
  | none => rfl
  | some url =>
    rw [Option.bind_some, if_neg hread, if_neg hrepeat]

namespace Outgoing

def Reads (q : Outgoing) : Prop := q.method = "GET" ∧ q.payload = .empty

variable {next : Outgoing}

lemma redirected_cases (hr : q.redirected? r = some next) :
    next.method = (if q.method = "HEAD" then "HEAD" else "GET") ∧ next.payload = .empty ∨
      next.method = q.method ∧ q.payload.again? = some next.payload := by
  obtain ⟨url, -, hr⟩ := Option.bind_eq_some_iff.mp hr
  split at hr
  · cases hr
    exact .inl ⟨rfl, rfl⟩
  split at hr
  · obtain ⟨payload, hpayload, rfl⟩ := Option.map_eq_some_iff.mp hr
    exact .inr ⟨rfl, hpayload⟩
  · cases hr

lemma Reads.redirected (hq : q.Reads) (hr : q.redirected? r = some next) : next.Reads := by
  obtain ⟨hmethod, hpayload⟩ := hq
  rcases redirected_cases hr with ⟨hm, hp⟩ | ⟨hm, hp⟩
  · rw [hmethod] at hm
    exact ⟨hm, hp⟩
  · rw [hpayload] at hp
    exact ⟨hm.trans hmethod, (Option.some.inj hp).symm⟩

lemma reads_of_form {fields : List FormField} (hp : q.payload = .form fields) (hm : q.method ≠ "HEAD")
    (hr : q.redirected? r = some next) : next.Reads := by
  rcases redirected_cases hr with ⟨hmethod, hpayload⟩ | ⟨-, hpayload⟩
  · rw [if_neg hm] at hmethod
    exact ⟨hmethod, hpayload⟩
  · rw [hp] at hpayload
    cases hpayload

end Outgoing

theorem ends_pursue_iff : (pursue hops q).Ends lines outcome ↔ Visit hops q lines outcome := by
  constructor
  · intro h
    induction hops generalizing q lines with
    | zero =>
      obtain _ | @⟨_, _, answer, _, _, _, _, rest, -, hrest⟩ := h
      dsimp only at hrest
      split at hrest
      · next hr =>
        cases hrest
        exact .ended hr
      · next hr =>
        obtain ⟨r, rfl, hr⟩ := Option.bind_eq_some_iff.mp hr
        cases hrest
        exact .astray hr
    | succ hops ih =>
      obtain _ | @⟨_, _, answer, _, _, _, _, rest, -, hrest⟩ := h
      dsimp only at hrest
      split at hrest
      · next hr =>
        cases hrest
        exact .ended hr
      · next hr =>
        obtain ⟨r, rfl, hr⟩ := Option.bind_eq_some_iff.mp hr
        split at hrest
        · next hnext => exact .redirected hr hnext (ih hrest)
        · next hnext =>
          cases hrest
          exact .misled hr (Bool.eq_false_iff.mpr hnext)
  · intro h
    induction h with
    | @ended hops q answer hr =>
      cases hops <;>
      · refine .ask ?_
        simp only [hr]
        exact .done
    | astray hr =>
      refine .ask ?_
      simp only [Option.bind_some, hr]
      exact .done
    | misled hr hnext =>
      refine .ask ?_
      simp only [Option.bind_some, hr, hnext]
      exact .done
    | redirected hr hnext _ ih =>
      refine .ask ?_
      simp only [Option.bind_some, hr, hnext]
      exact ih

lemma of_ends_send (h : (send method target headers payload).Ends lines outcome) :
    (∃ e, build method target headers payload = .error e ∧ lines = [] ∧ outcome = .error e) ∨
      ∃ q, build method target headers payload = .ok q ∧ Visit maxRedirects q lines outcome := by
  rw [send] at h
  split at h
  · next e hbuild =>
    cases h
    exact .inl ⟨e, hbuild, rfl, rfl⟩
  · next q hbuild => exact .inr ⟨q, hbuild, ends_pursue_iff.mp h⟩

lemma Visit.ends_send (h : Visit maxRedirects q lines outcome) (hq : build method target headers payload = .ok q) :
    (send method target headers payload).Ends lines outcome := by
  rw [send, hq]
  exact ends_pursue_iff.mpr h

namespace Visit

lemma answered (hr : q.redirected? r = none) : Visit hops q [⟨q, some r⟩] (.ok r) := @ended hops q (some r) hr

lemma ne_nil (h : Visit hops q lines outcome) : lines ≠ [] := by cases h <;> exact List.cons_ne_nil _ _

lemma append_inj {q' : Outgoing} {lines' rest rest' : List Line} {outcome' : Except TransportError Response}
    (h : Visit hops q lines outcome) (h' : Visit hops q' lines' outcome') (he : lines ++ rest = lines' ++ rest') :
    lines = lines' ∧ outcome = outcome' ∧ rest = rest' := by
  induction h generalizing q' lines' with
  | ended _ | astray _ | misled _ _ => cases h' <;> simp_all
  | redirected hr _ _ ih =>
    cases h' with
    | redirected hr' _ hrest' =>
      obtain ⟨hline, hlines⟩ := List.cons.inj he
      cases hline
      cases hr.symm.trans hr'
      obtain ⟨rfl, rfl, rfl⟩ := ih hrest' hlines
      exact ⟨rfl, rfl, rfl⟩
    | _ => simp_all

lemma reads (h : Visit hops q lines outcome) (hq : q.Reads) : ∀ line ∈ lines, line.question.Reads := by
  induction h with
  | ended _ | astray _ | misled _ _ => simpa using hq
  | redirected hr _ _ ih => exact List.forall_mem_cons.mpr ⟨hq, ih (hq.redirected hr)⟩

lemma exists_cons_reads {fields : List FormField} (h : Visit hops q lines outcome) (hp : q.payload = .form fields)
    (hm : q.method ≠ "HEAD") : ∃ answer rest, lines = ⟨q, answer⟩ :: rest ∧ ∀ line ∈ rest, line.question.Reads := by
  cases h with
  | ended _ | astray _ | misled _ _ => exact ⟨_, [], rfl, List.forall_mem_nil _⟩
  | redirected hr _ hrest => exact ⟨_, _, rfl, hrest.reads (Outgoing.reads_of_form hp hm hr)⟩

end Visit

end ResumableUpload.Http
