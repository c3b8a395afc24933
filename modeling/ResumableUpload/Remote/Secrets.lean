import ResumableUpload.Call
import ResumableUpload.Http.Exchange
import ResumableUpload.Json.Display
import ResumableUpload.Json.Record

/-! A secret store that is reached over HTTP. -/

namespace ResumableUpload

structure RemoteSecrets where
  address : String
  token : String

namespace RemoteSecrets

open Http (Exchange Payload Response TransportError)

def root (r : RemoteSecrets) : String := Text.trimEndBy (· = '/') r.address ++ "/v1/"

def secretUrl (r : RemoteSecrets) (path : String) : String := r.root ++ Text.trimStartBy (· = '/') path

def credentials (r : RemoteSecrets) : List (String × String) := [("x-vault-token", r.token)]

def failed (e : TransportError) : SecretError := .network s!"Request failed: {e.message}"

def accepted (path : String) : Except TransportError Response → Except SecretError Response
  | .error e => .error (failed e)
  | .ok response =>
    if response.isSuccess then .ok response
    else if response.status = 404 then .error (.notFound path)
    else
      let status := Http.Status.text response.status
      .error (.provider s!"Vault request failed with status {status}: {response.text}")

def maxDepth : Nat := 127

def entries? (j : Json) : Option (List (String × Json)) := do
  let field ← j.record? ["data"]
  let data ← field "data"
  guard (data.depth + 1 ≤ maxDepth)
  let members ← data.object?
  guard (members.all fun entry => entry.2.display?.isSome)
  return members

def entry (path name : String) (members : List (String × Json)) : Except SecretError String :=
  match Json.lookup members.reverse name with
  | some (.string value) => .ok value
  | some other =>
    .error (.provider (s!"Entry {name} at {path} is not a string: " ++ other.display?.getD ""))
  | none => .error (.notFound s!"{path}#{name}")

def ofRead (path name : String) (response : Response) : Except SecretError String :=
  match response.json? entries? with
  | .ok members => entry path name members
  | .error e => .error (.provider s!"Failed to parse response: {e.message}")

def ofCheck : Except TransportError Response → Except SecretError Unit
  | .error e => .error (failed e)
  | .ok response =>
    if response.isSuccess then .ok ()
    else .error (.provider s!"Vault health returned status {Http.Status.text response.status}")

def respond (r : RemoteSecrets) : (c : SecretCall) → Exchange c.Answer
  | .write path name value =>
    (fun response => (accepted path response).map fun _ => ()) <$>
      Http.send "POST" (r.secretUrl path) r.credentials (.json (.object [(name, .string value)]))
  | .read path name =>
    (fun response => (accepted path response).bind (ofRead path name)) <$>
      Http.send "GET" (r.secretUrl path) r.credentials .empty
  | .check => ofCheck <$> Http.send "GET" (r.root ++ "sys/health") [] .empty

end RemoteSecrets

end ResumableUpload
