import ResumableUpload.Proofs.Client.Answers
import ResumableUpload.Proofs.File.Document
import ResumableUpload.Proofs.Service.Distinction
import ResumableUpload.Proofs.Service.Probing

/-! A client understands the documents of the service, and its refusals. -/

namespace ResumableUpload

open Http (Response)

structure Json.Lossless {α : Type} (write : α → Json) (read : Json → Option α) (known : Json → Json) : Prop where
  plain : ∀ a, (Json.read? (write a).write).bind read = some a
  extended : ∀ a j, known j = write a → (Json.read? j.write).bind read = some a

lemma Json.Lossless.of {α : Type} {write : α → Json} {read : Json → Option α} {known : Json → Json}
    (hwrite : ∀ a, read (write a) = some a) (hknown : ∀ j, read (known j) = read j) : Lossless write read known := by
  constructor
  · intro a
    rw [read?_write, Option.bind_some, hwrite]
  · intro a j h
    rw [read?_write, Option.bind_some, ← hknown, h, hwrite]

namespace Service.Reply

def sent (reply : Reply) : Response := Http.Carrier.plain.response reply

lemma json?_sent {α : Type} {read : Json → Option α} {j : Json} {a : α} (status : Nat) (h : read j = some a) :
    (json status j).sent.json? read = .ok a := by
  have hbody : String.fromUTF8? (json status j).sent.body = some j.write := Text.Utf8.decode?_toUTF8 j.write
  rw [Response.json?, hbody, Option.bind_some, Json.read?_write, Option.bind_some, h]

lemma charset_json : Http.MediaType.charset "application/json" = .utf8 := by
  have hread : Http.MediaType.read? "application/json" = some ⟨"application", "json", []⟩ := by decide +kernel
  rw [Http.MediaType.charset, hread]
  rfl

lemma text_sent (status : Nat) (members : List (String × Json)) :
    (json status (.object members)).sent.text = (Json.object members).write := by
  obtain ⟨rest, hrest⟩ : ∃ rest, (Json.object members).write.toList = '{' :: rest := by
    rw [Json.write, String.toList_ofList]
    cases members <;> exact ⟨_, rfl⟩
  have hoctets : Bytes.octets (Json.object members).write.toUTF8 = 0x7b :: rest.flatMap String.utf8EncodeChar := by
    rw [Text.Charset.octets_toUTF8, hrest]
    rfl
  change Text.Charset.decode (Http.MediaType.charset "application/json") (Json.object members).write.toUTF8 = _
  rw [charset_json, Text.Charset.decode, Text.Charset.marked?_eq_none hoctets (by decide)]
  exact Text.Utf8.decodeLossy_toUTF8 _

end Service.Reply

namespace UploadClient

open Client (ClientError)

variable {c : UploadClient}

lemma refusal_sent (status : Nat) (l : ErrorList) :
    refusal (Service.Reply.json status l.toJson).sent = .refused status l := by
  have htext : (Service.Reply.json status l.toJson).sent.text = l.toJson.write := Service.Reply.text_sent _ _
  rw [refusal, htext, Json.read?_write, Option.bind_some, ErrorList.ofJson?_toJson]
  rfl

lemma ends_send {α : Type} {method target : String} {headers : List (String × String)} {payload : Http.Payload}
    {q : Http.Outgoing} (h : Http.build method target headers payload = .ok q)
    (f : Except Http.TransportError Response → α) {response : Response} (hr : q.redirected? response = none) :
    (f <$> Http.send method target headers payload : Http.Exchange α).Ends [⟨q, some response⟩] (f (.ok response)) :=
  ((Http.Visit.answered hr).ends_send h).map f

end UploadClient

lemma UploadError.status_facts (e : UploadError) : 400 ≤ e.presentation.status ∧ e.presentation.status ≠ 503 := by
  cases e <;> simp [presentation]

lemma Service.Failure.exists_reply (expose : Bool) (f : Failure) :
    ∃ status l, f.reply expose = .json status (ErrorList.toJson l) ∧ 400 ≤ status ∧ status ≠ 503 := by
  cases f with
  | request e => exact ⟨400, e.errorList, rfl, by decide, by decide⟩
  | upload e => exact ⟨_, _, rfl, e.status_facts⟩
  | notification e =>
    cases e with
    | stateConflict path => exact ⟨_, _, rfl, (UploadError.stateConflict path).status_facts⟩
    | _ => exact ⟨500, _, rfl, by decide, by decide⟩

namespace UploadClient

lemma ofUpload_refused {status : Nat} (l : ErrorList) (h : 400 ≤ status) :
    ofUpload (.ok (Service.Reply.json status l.toJson).sent) = .error (.refused status l) := by
  have haccepted : ¬ (status = 200 ∨ status = 201) := by omega
  rw [ofUpload, refusal_sent]
  exact if_neg haccepted

lemma not_isSuccess {status : Nat} (l : ErrorList) (h : 400 ≤ status) :
    ¬ (Service.Reply.json status l.toJson).sent.isSuccess = true := by
  intro hsuccess
  have hlt : status < 300 := of_decide_eq_true (Bool.and_eq_true_iff.mp hsuccess).2
  omega

lemma ofStatus_refused {status : Nat} (l : ErrorList) (h : 400 ≤ status) :
    ofStatus (.ok (Service.Reply.json status l.toJson).sent) = .error (.refused status l) := by
  rw [ofStatus, if_neg (not_isSuccess l h), refusal_sent]

lemma ofHealth_refused {status : Nat} (l : ErrorList) (h : 400 ≤ status) (hne : status ≠ 503) :
    ofHealth (.ok (Service.Reply.json status l.toJson).sent) = .error (.refused status l) := by
  rw [ofHealth, refusal_sent]
  exact if_neg (not_or_intro (not_isSuccess l h) hne)

lemma ends_status {c : UploadClient} {file : String} {q : Http.Outgoing} (s : Status)
    (hq : Http.build "GET" (c.base ++ "/status/" ++ Text.trimStartBy (· = '/') file) c.credentials .empty = .ok q) :
    (c.status file).Ends [⟨q, some (Service.Reply.json 200 s.toJson).sent⟩] (.ok s) := by
  have hread : ofStatus (.ok (Service.Reply.json 200 s.toJson).sent) = .ok s := by
    rw [ofStatus, Service.Reply.json?_sent 200 s.ofJson?_toJson]
    rfl
  have hstatus : (Service.Reply.json 200 s.toJson).sent.status < 300 := by
    change 200 < 300
    decide
  rw [← hread]
  exact ends_send hq ofStatus (Http.redirected?_eq_none (.inl hstatus))

/-- Neither a document nor a refusal of the service loses anything on its way to the client. -/
theorem documents_understood :
    (Json.Lossless FileMetadata.toJson FileMetadata.ofJson? FileMetadata.known ∧
      Json.Lossless Status.toJson Status.ofJson? Status.known ∧
      Json.Lossless Health.toJson Health.ofJson? Health.known ∧
      Json.Lossless ErrorList.toJson ErrorList.ofJson? ErrorList.known) ∧
    (∀ {σ : Type} (d : Deployment σ) (r : Http.Request) (path : String) (deadline : Option Nat) (m m' : Moment σ)
      (s : Status), d.withinRequest (d.status (r.textHeader? "authorization") path) deadline m = (some (.ok s), m') →
        ∃ reply, d.respondStatus r path deadline m = (some reply, m') ∧ ∀ (c : UploadClient) (file : String) q,
          Http.build "GET" (c.base ++ "/status/" ++ Text.trimStartBy (· = '/') file) c.credentials .empty = .ok q →
            (c.status file).Ends [⟨q, some reply.sent⟩] (.ok s)) ∧
    ∀ (f : Service.Failure) (expose : Bool), ∃ l : ErrorList, (f.reply expose).content = .json l.toJson ∧
      ofUpload (.ok (f.reply expose).sent) = .error (.refused (f.reply expose).status l) ∧
      ofStatus (.ok (f.reply expose).sent) = .error (.refused (f.reply expose).status l) ∧
      ofHealth (.ok (f.reply expose).sent) = .error (.refused (f.reply expose).status l) := by
  refine ⟨⟨.of FileMetadata.ofJson?_toJson FileMetadata.ofJson?_known, .of Status.ofJson?_toJson Status.ofJson?_known,
    .of Health.ofJson?_toJson Health.ofJson?_known, .of ErrorList.ofJson?_toJson ErrorList.ofJson?_known⟩, ?_, ?_⟩
  · intro σ d r path deadline m m' s hs
    refine ⟨.json 200 s.toJson, ?_, fun c file q hq => ends_status s hq⟩
    rw [Deployment.respondStatus, Activity.bind_of hs]
    rfl
  · intro f expose
    obtain ⟨status, l, hreply, hle, hne⟩ := f.exists_reply expose
    rw [hreply]
    exact ⟨l, rfl, ofUpload_refused l hle, ofStatus_refused l hle, ofHealth_refused l hle hne⟩

def keptJson : Json :=
  match (FileMetadata.least 5).toJson with
  | .object members => .object (("id", .natural 7) :: members ++ [("history", .array [.null, .object [("path", .null)]])])
  | j => j

def smallFiles : Deployment Unit where
  config := { encryptionDisabled := true }
  objectUrl := id
  perform
    | .registry (.find ..) => .done (.ok (.least 5))
    | c => Deployment.forgetful.perform c

def smallStatus : Status := ⟨.least 5, .failed (StorageError.notFound "a").message, none⟩

def statusUrl : Http.Url := { Http.Url.least with path := "/status/a" }

lemma build_status : Http.build "GET" ((least {}).base ++ "/status/" ++ Text.trimStartBy (· = '/') "a")
    (least {}).credentials .empty = .ok ⟨"GET", statusUrl, (least {}).credentials, .empty⟩ := by
  apply Http.build_of_read
  · decide +kernel
  · decide
  · decide +kernel
  · decide +kernel
  · decide +kernel

theorem documents_understood_small : FileMetadata.known keptJson = (FileMetadata.least 5).toJson ∧
    (Json.read? keptJson.write).bind FileMetadata.ofJson? = some (.least 5) ∧
    ∃ reply, smallFiles.respondStatus Rehearsal.statusRequest "a" none ⟨0, ()⟩ = (some reply, ⟨0, ()⟩) ∧
      ∃ q, ((least {}).status "a").Ends [⟨q, some reply.sent⟩] (.ok smallStatus) := by
  obtain ⟨⟨hmetadata, -⟩, hstatus, -⟩ := documents_understood
  have hkept : FileMetadata.known keptJson = (FileMetadata.least 5).toJson := rfl
  obtain ⟨reply, hreply, hends⟩ := hstatus smallFiles Rehearsal.statusRequest "a" none ⟨0, ()⟩ ⟨0, ()⟩ smallStatus rfl
  exact ⟨hkept, hmetadata.extended _ _ hkept, reply, hreply, _, hends (least {}) "a" _ build_status⟩

end UploadClient

end ResumableUpload
