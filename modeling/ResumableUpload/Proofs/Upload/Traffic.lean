import ResumableUpload.Proofs.Upload.Turn

/-! Uploads side by side over the same backends. Every call of an upload is one step; the steps of different
uploads come in any order, a call may fail before it reaches its backend, and an upload may be dropped
between two of its calls. -/

namespace ResumableUpload.Upload

def Request.plain (path : String) (current total : Nat) (payload : Bytes) : Request where
  authorization := none
  metadata := ⟨path, false, none, none, "", 0, "", "", "", none⟩
  chunk := ⟨"", "", current, total⟩
  payload

def Request.latter : Request := .plain "a" 2 2 ⟨#[7]⟩

structure Flight where
  request : Request
  rest : Option (Procedure (Except UploadError Completion))

namespace Flight

def path (f : Flight) : String := f.request.path

def question (f : Flight) : Option Call :=
  match f.rest with
  | some (.ask q _) => some q
  | _ => none

def outcome (f : Flight) : Option (Except UploadError Completion) :=
  match f.rest with
  | some (.done result) => some result
  | _ => none

end Flight

structure Exchange where
  request : Request
  call : Call
  answer : call.Answer

namespace Exchange

def path (x : Exchange) : String := x.request.path

def registers : Exchange → Bool
  | ⟨_, .registry (.register ..), .ok ()⟩ => true
  | _ => false

def storesKey : Exchange → Bool
  | ⟨_, .secret (.write ..), .ok ()⟩ => true
  | _ => false

def completes : Exchange → Bool
  | ⟨_, .storage (.put ..), .ok receipt⟩ => receipt.complete
  | _ => false

def marks : Exchange → Bool
  | ⟨_, .registry (.mark ..), .ok ()⟩ => true
  | _ => false

end Exchange

/-- The log has the exchanges, the latest first, each with the place of its upload. -/
structure Traffic where
  backends : Backends
  flights : List Flight
  log : List (Nat × Exchange)

namespace Traffic

def quiet (b : Backends) : Traffic := ⟨b, [], []⟩

def requests (t : Traffic) : List Request := t.flights.map (·.request)

def exchanges (t : Traffic) : List Exchange := t.log.map (·.2)

def exchangesOf (t : Traffic) (i : Nat) : List Exchange := (t.log.filter (·.1 = i)).map (·.2)

def count (t : Traffic) (path : String) (kind : Exchange → Bool) : Nat :=
  t.exchanges.countP fun x => x.path = path && kind x

def launch (policy : UploadPolicy) (t : Traffic) (r : Request) : Traffic :=
  { t with flights := t.flights ++ [⟨r, some (r.procedure policy)⟩] }

def resume (t : Traffic) (i : Nat) (r : Request) (q : Call) (a : q.Answer)
    (next : q.Answer → Procedure (Except UploadError Completion)) (backends : Backends) : Traffic :=
  ⟨backends, t.flights.set i ⟨r, some (next a)⟩, (i, ⟨r, q, a⟩) :: t.log⟩

def answer (t : Traffic) (i : Nat) : Traffic :=
  match t.flights[i]? with
  | some ⟨r, some (.ask q next)⟩ =>
    t.resume i r q (Backends.respond q t.backends).1 next (Backends.respond q t.backends).2
  | _ => t

def played (policy : UploadPolicy) (requests : List Request) (order : List Nat) : Traffic :=
  order.foldl answer (requests.foldl (launch policy) (quiet (.withKeys [])))

def drop (t : Traffic) (i : Nat) (r : Request) : Traffic := { t with flights := t.flights.set i ⟨r, none⟩ }

end Traffic

/-- A step without a mishap: an upload begins, or the backends answer its call. -/
inductive Move (policy : UploadPolicy) (t : Traffic) : Traffic → Prop
  | launch (r : Request) : Move policy t (t.launch policy r)
  | answer {i : Nat} {r : Request} {q : Call} {next} : t.flights[i]? = some ⟨r, some (.ask q next)⟩ →
      Move policy t (t.resume i r q (Backends.respond q t.backends).1 next (Backends.respond q t.backends).2)

inductive Mishap (t : Traffic) : Traffic → Prop
  | fail {i : Nat} {r : Request} {q : Call} {next} (a : q.Answer) : t.flights[i]? = some ⟨r, some (.ask q next)⟩ →
      q.IsFailure a → Mishap t (t.resume i r q a next t.backends)
  | drop {i : Nat} {r : Request} {q : Call} {next} : t.flights[i]? = some ⟨r, some (.ask q next)⟩ →
      Mishap t (t.drop i r)

def Step (policy : UploadPolicy) (t t' : Traffic) : Prop := Move policy t t' ∨ Mishap t t'

def Reachable (policy : UploadPolicy) (b : Backends) (t : Traffic) : Prop :=
  Relation.ReflTransGen (Step policy) (.quiet b) t

def Smooth (policy : UploadPolicy) (b : Backends) (t : Traffic) : Prop :=
  Relation.ReflTransGen (Move policy) (.quiet b) t

variable {policy : UploadPolicy} {b : Backends} {t : Traffic}

lemma Move.of_question {i : Nat} {f : Flight} {q : Call} (hf : t.flights[i]? = some f) (hq : f.question = some q) :
    Move policy t (t.answer i) := by
  obtain ⟨r, rest⟩ := f
  rw [Flight.question] at hq
  split at hq
  · next next hrest =>
    obtain rfl : rest = _ := hrest
    rw [Traffic.answer]
    rw [hf]
    exact .answer hf
  · cases hq

namespace Smooth

lemma launches (h : Smooth policy b t) (requests : List Request) :
    Smooth policy b (requests.foldl (Traffic.launch policy) t) := by
  induction requests generalizing t with
  | nil => exact h
  | cons r requests ih => exact ih (Relation.ReflTransGen.tail h (.launch r))

lemma answer (h : Smooth policy b t) (i : Nat) : Smooth policy b (t.answer i) := by
  rw [Traffic.answer]
  split
  · next hi => exact Relation.ReflTransGen.tail h (.answer hi)
  · exact h

lemma answers (h : Smooth policy b t) (order : List Nat) : Smooth policy b (order.foldl Traffic.answer t) := by
  induction order generalizing t with
  | nil => exact h
  | cons i order ih => exact ih (h.answer i)

lemma played (requests : List Request) (order : List Nat) :
    Smooth policy (.withKeys []) (.played policy requests order) :=
  answers (launches .refl requests) order

end Smooth

end ResumableUpload.Upload
