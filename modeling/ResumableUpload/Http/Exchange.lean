import ResumableUpload.Bytes
import ResumableUpload.Dialogue
import ResumableUpload.Http.Failure
import ResumableUpload.Http.MediaType
import ResumableUpload.Http.Status
import ResumableUpload.Http.Url
import ResumableUpload.Json.Reader
import ResumableUpload.Text.Base64

/-! Requests that a client sends, and what it does with the answers. -/

namespace ResumableUpload.Http

structure FormField where
  name : String
  fileName : Option String
  content : Bytes

namespace FormField

def text (name value : String) : FormField := ⟨name, none, value.toUTF8⟩

def escape (c : Char) : List Char := if c ∈ ['"', '\\', '\r', '\n'] then ['\\', c] else [c]

def quote (s : String) : String := String.ofList ('"' :: s.toList.flatMap escape ++ ['"'])

def disposition (f : FormField) : String :=
  "form-data; name=" ++ quote f.name ++ ((f.fileName.map fun s => "; filename=" ++ quote s).getD "")

end FormField

inductive Payload
  | empty
  | json (j : Json)
  | form (fields : List FormField)

structure Outgoing where
  method : String
  url : Url
  headers : List (String × String)
  payload : Payload

/-- An answer; `location` is the address that it names, seen from the one that was asked. -/
structure Response where
  status : Nat
  contentType : Option String
  body : Bytes
  location : Option Url

abbrev Exchange (α : Type) := Dialogue Outgoing (fun _ => Option Response) α

def isHeaderValue (s : String) : Bool := s.toList.all fun c => c = '\t' || (0x20 ≤ c.toNat && c.toNat ≠ 0x7f)

def basic (username : String) (password : Option String) : String × String :=
  ("authorization", "Basic " ++ Text.Base64.encode (Text.Utf8.encode (username ++ ":" ++ password.getD "")))

def bearer (token : String) : String × String := ("authorization", "Bearer " ++ token)

def address (url : Url) (headers : List (String × String)) : Url × List (String × String) :=
  match url.credentials? with
  | some (username, password) => (url.withoutCredentials, basic username password :: headers)
  | none => (url, headers)

def build (method target : String) (headers : List (String × String)) (payload : Payload) :
    Except TransportError Outgoing :=
  -- builds the request if that can be done; its host is looked at before its headers, its scheme after them
  match Url.read? target with
  | none => .error (.malformed none)
  | some url =>
    if url.host? = none then .error (.malformed (some url.text))
    else if !headers.all fun h => isHeaderValue h.2 then .error (.malformed none)
    else
      let (url, headers) := address url headers
      if url.isHttp && url.isSendable then .ok ⟨method, url, headers, payload⟩
      else .error (.malformed (some url.text))

def Payload.again? : Payload → Option Payload
  -- a form is streamed, and cannot be sent a second time
  | .form _ => none
  | payload => some payload

namespace Outgoing

def headersFor (q : Outgoing) (url : Url) : List (String × String) :=
  -- the credentials are not shown to another host or port
  if url.host? = q.url.host? ∧ url.portOrUsual? = q.url.portOrUsual? then q.headers
  else q.headers.filter (·.1 ≠ "authorization")

/-- The request that an answer asks for in place of the first: some statuses say that another address is to be read,
and others that the request is to be repeated there. -/
def redirected? (q : Outgoing) (r : Response) : Option Outgoing :=
  (r.location.filter Url.isSendable).bind fun url =>
    if r.status ∈ [301, 302, 303] then
      some ⟨if q.method = "HEAD" then "HEAD" else "GET", url, q.headersFor url, .empty⟩
    else if r.status ∈ [307, 308] then
      q.payload.again?.map fun payload => ⟨q.method, url, q.headersFor url, payload⟩
    else none

end Outgoing

def maxRedirects : Nat := 10

def received (q : Outgoing) : Option Response → Except TransportError Response
  | some response => .ok response
  | none => .error (.unanswered q.url.text)

def pursue : Nat → Outgoing → Exchange (Except TransportError Response)
  -- makes a request, and then those to which the answers redirect it, as long as there are hops left
  | 0, q => .ask q fun answer =>
    match answer.bind q.redirected? with
    | none => .done (received q answer)
    | some _ => .done (.error (.astray q.url.text))
  | hops + 1, q => .ask q fun answer =>
    match answer.bind q.redirected? with
    | none => .done (received q answer)
    | some next => if next.url.isHttp then pursue hops next else .done (.error (.malformed (some next.url.text)))

def send (method target : String) (headers : List (String × String)) (payload : Payload) :
    Exchange (Except TransportError Response) :=
  match build method target headers payload with
  | .error e => .done (.error e)
  | .ok request => pursue maxRedirects request

namespace Response

def isSuccess (r : Response) : Bool := Status.isSuccess r.status

def text (r : Response) : String := ((r.contentType.map MediaType.charset).getD .utf8).decode r.body

def json? (r : Response) (read : Json → Option α) : Except TransportError α :=
  match ((String.fromUTF8? r.body).bind Json.read?).bind read with
  | some a => .ok a
  | none => .error .undecodable

end Response

end ResumableUpload.Http
