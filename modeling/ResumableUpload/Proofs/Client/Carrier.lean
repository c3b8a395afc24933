import ResumableUpload.Json.Writer
import ResumableUpload.Proofs.Http.Visit
import ResumableUpload.Proofs.Service.Serving

/-! What carries the requests of a client to a service, and the answers back. -/

namespace ResumableUpload.Http

structure Carrier where
  request : Outgoing → Request
  response : Service.Reply → Response

/-- A form comes to the service whole, and is not longer than the service allows. -/
structure Carrier.Delivers (carrier : Carrier) (limit : Nat) (q : Outgoing) (fields : List FormField) : Prop where
  method : (carrier.request q).method = q.method
  target : (carrier.request q).target = q.url.target
  data : ∃ boundary, ((carrier.request q).textHeader? "content-type").bind MediaType.boundary? = some boundary ∧
    FormData.read boundary (carrier.request q).body = ⟨fields.map FormField.received, true⟩
  length : (carrier.request q).contentLength?.getD (carrier.request q).body.size = (carrier.request q).body.size
  size : (carrier.request q).body.size ≤ limit

variable {carrier : Carrier} {limit : Nat} {q : Outgoing} {fields : List FormField}

lemma Carrier.Delivers.uploads (h : carrier.Delivers limit q fields) (hm : q.method = "POST")
    (ht : q.url.target = "/upload-new") : (carrier.request q).Uploads limit fields := by
  refine ⟨h.method.trans hm, ?_, h.data, h.length, h.size⟩
  rw [Request.path, h.target, ht]
  rfl

def Carrier.serve {σ : Type} (carrier : Carrier) (d : Deployment σ) (q : Outgoing) (s : Moment σ × List (Option Nat)) :
    Option Response × Moment σ × List (Option Nat) :=
  let (reply, m) := (d.respond (carrier.request q)).finish s.1
  (reply.map carrier.response, m, s.2 ++ [reply.map Service.Reply.status])

lemma Carrier.serve_upload {config : Config} {form : UploadForm} {payload : Bytes} {t : Moment Rehearsal}
    {result : Except UploadError Completion} {h : Holding}
    (hu : (carrier.request q).Uploads config.maxChunkBytes.toNat fields)
    (hform : FormDecoding.read ⟨fields.map FormField.received, true⟩ = .ok (form, payload))
    (hf : t.world.faults = .none)
    (hl : (Deployment.described (carrier.request q) form payload).Leaves config.policy t.world.backends result h)
    (statuses : List (Option Nat)) : ∃ t' : Moment Rehearsal,
      carrier.serve (Rehearsal.deployment config) q (t, statuses) =
        (some (carrier.response ((Rehearsal.deployment config).uploadReply result)), t',
          statuses ++ [some ((Rehearsal.deployment config).uploadReply result).status]) ∧
      t'.world.faults = .none ∧ t'.world.backends.holding config.policy.keyRoot form.metadata.path = h := by
  obtain ⟨b, hserve, hb⟩ := hl
  obtain ⟨calls, hrespond⟩ := Deployment.respond_upload hu hform hf hserve
  refine ⟨⟨t.clock, b, .none, calls⟩, ?_, rfl, ?_⟩
  · rw [Carrier.serve, hrespond]
    rfl
  · rw [hb]
    apply Function.update_self

lemma build_payload {method target : String} {headers headers' : List (String × String)} {url : Url}
    (h : build method target headers .empty = .ok ⟨method, url, headers', .empty⟩) (payload : Payload) :
    build method target headers payload = .ok ⟨method, url, headers', payload⟩ := by
  rw [build] at h ⊢
  cases hread : Url.read? target with
  | none =>
    rw [hread] at h
    cases h
  | some u =>
    rw [hread] at h
    dsimp only at h ⊢
    split at h
    · cases h
    · next hhost =>
      rw [if_neg hhost]
      split at h
      · cases h
      · next hheaders =>
        rw [if_neg hheaders]
        split at h
        · next hsend =>
          rw [if_pos hsend]
          cases h
          rfl
        · cases h

lemma payload_of_build {method target : String} {headers : List (String × String)} {payload : Payload}
    (h : build method target headers payload = .ok q) : q.payload = payload := by
  rw [build] at h
  split at h
  · cases h
  · dsimp only at h
    split_ifs at h
    cases h
    rfl

lemma run_pursue {σ : Type} {hops : Nat} {respond : Outgoing → σ → Option Response × σ} {s : σ}
    (h : (respond q s).1.bind q.redirected? = none) :
    (pursue hops q).run respond s = (received q (respond q s).1, (respond q s).2) := by
  cases hops <;> simp only [pursue, Dialogue.run, h]

lemma run_send {σ : Type} {method target : String} {headers : List (String × String)} {payload : Payload}
    {respond : Outgoing → σ → Option Response × σ} {s : σ} (hq : build method target headers payload = .ok q)
    (h : (respond q s).1.bind q.redirected? = none) :
    (send method target headers payload).run respond s = (received q (respond q s).1, (respond q s).2) := by
  rw [send, hq]
  exact run_pursue h

lemma build_of_read {method target : String} {url : Url} {headers : List (String × String)} {payload : Payload}
    (hread : Url.read? target = some url) (hhost : ¬ url.host? = none)
    (hvalues : headers.all (fun h => isHeaderValue h.2) = true) (haddress : address url headers = (url, headers))
    (hsend : (url.isHttp && url.isSendable) = true) :
    build method target headers payload = .ok ⟨method, url, headers, payload⟩ := by
  have hvalid : ¬ (!headers.all fun h => isHeaderValue h.2) = true := by rw [hvalues]; decide
  rw [build, hread]
  dsimp only
  rw [if_neg hhost, if_neg hvalid, haddress]
  dsimp only
  rw [if_pos hsend]

def Carrier.plain : Carrier where
  request q := ⟨q.method, q.url.target, [("content-type", "multipart/form-data; boundary=x")],
    match q.payload with
    | .form fields => FormData.write "x" fields
    | _ => .empty⟩
  response reply := ⟨reply.status, reply.contentType,
    match reply.content with
    | .empty => .empty
    | .text s => s.toUTF8
    | .json j => j.write.toUTF8, none⟩

lemma Carrier.plain_delivers {method : String} {url : Url} {headers : List (String × String)}
    (hf : ∀ f ∈ fields, f.Clear (FormData.delimiter "x")) (hsize : (FormData.write "x" fields).size ≤ limit) :
    plain.Delivers limit ⟨method, url, headers, .form fields⟩ fields := by
  refine ⟨rfl, rfl, ⟨"x", rfl, ?_⟩, rfl, hsize⟩
  apply FormData.read_write hf

end ResumableUpload.Http
