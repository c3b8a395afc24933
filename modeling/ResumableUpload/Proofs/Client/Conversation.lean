import ResumableUpload.Proofs.Client.Answers
import ResumableUpload.Proofs.Form.Recovery

/-! The requests that an upload makes, and how it ends, whatever the server replies and wherever the connection drops. -/

namespace ResumableUpload

open Client (Build ClientError)
open Http (Exchange FormField Line Outgoing Response TransportError Visit)

namespace Http

def scripted (replies : ℕ → Option Response) (q : Outgoing) (lines : List Line) : Option Response × List Line :=
  (replies lines.length, lines ++ [⟨q, replies lines.length⟩])

structure Round where
  lines : List Line
  outcome : Except TransportError Response

end Http

open Http (Round)

namespace UploadClient

/-- A form with all that is known of a file, the place of a chunk, and its bytes. No name comes twice. -/
structure Carries (m : FileMetadata) (number total : ℕ) (bytes : Bytes) (fields : List FormField) : Prop where
  names : (fields.map (·.name)).Nodup
  texts : ∀ e ∈ [("path", m.path), ("isPublishable", toString m.isPublishable), ("title", m.title),
      ("licence", m.licence), ("licenceUrl", m.licenceUrl), ("resumableType", m.contentType),
      ("resumableTotalSize", toString m.sizeInBytes.toNat), ("resumableFilename", m.fileName),
      ("resumableChunkNumber", toString number), ("resumableTotalChunks", toString total)],
    FormField.text e.1 e.2 ∈ fields
  collectionId : ∀ s, .text "collectionId" s ∈ fields ↔ m.collectionId = some s
  bundleId : ∀ s, .text "bundleId" s ∈ fields ↔ m.bundleId = some s
  datasetId : ∀ s, .text "datasetId" s ∈ fields ↔ m.contentItem.map (·.datasetId) = some s
  edition : ∀ s, .text "edition" s ∈ fields ↔ m.contentItem.map (·.edition) = some s
  version : ∀ s, .text "version" s ∈ fields ↔ m.contentItem.map (·.version) = some s
  file : ⟨FormDecoding.fileField, some m.fileName, bytes⟩ ∈ fields

variable {c : UploadClient} {m : FileMetadata} {content bytes : Bytes} {number total : ℕ} {fields : List FormField}
  {name : String}

section

variable (c : UploadClient) (m : FileMetadata) (content : Bytes) (url : Http.Url) (headers : List (String × String))

structure Asks (number : ℕ) (q : Outgoing) : Prop where
  held : min (number * c.chunking.chunkSize.toNat) m.sizeInBytes.toNat ≤ content.size
  form : ∃ fields, q = ⟨"POST", url, headers, .form fields⟩ ∧
    Carries m number (m.sizeInBytes.toNat ⌈/⌉ c.chunking.chunkSize.toNat)
      (content.extract ((number - 1) * c.chunking.chunkSize.toNat)
        (min (number * c.chunking.chunkSize.toNat) m.sizeInBytes.toNat)) fields

/-- The first chunks are sent, each in a round of its own: a request with the chunk, and the requests to which it is
redirected, which carry nothing. -/
def InOrder (rounds : List Round) : Prop :=
  ∀ (k : ℕ) (hk : k < rounds.length), ∃ q answer rest, c.Asks m content url headers (k + 1) q ∧
    rounds[k].lines = ⟨q, answer⟩ :: rest ∧ (∀ line ∈ rest, line.question.Reads) ∧
    Visit Http.maxRedirects q rounds[k].lines rounds[k].outcome

/-- How an upload ends after some rounds: when all chunks are accepted, where the content ends within the next chunk, or
with a round that ends in another reply, or in none. -/
inductive Closes : List Round → Except ClientError Unit → Prop
  | complete {rounds : List Round} (haccepted : ∀ round ∈ rounds, Accepts round.outcome)
      (hn : rounds.length = m.sizeInBytes.toNat ⌈/⌉ c.chunking.chunkSize.toNat) : Closes rounds (.ok ())
  | ended {rounds : List Round} (haccepted : ∀ round ∈ rounds, Accepts round.outcome)
      (hn : rounds.length < m.sizeInBytes.toNat ⌈/⌉ c.chunking.chunkSize.toNat)
      (hends : content.size < min ((rounds.length + 1) * c.chunking.chunkSize.toNat) m.sizeInBytes.toNat) :
      Closes rounds (.error .contentEnded)
  | refused {rounds : List Round} {lines : List Line} {r : Response} (haccepted : ∀ round ∈ rounds, Accepts round.outcome)
      (hn : rounds.length < m.sizeInBytes.toNat ⌈/⌉ c.chunking.chunkSize.toNat)
      (hstatus : r.status ≠ 200 ∧ r.status ≠ 201) : Closes (rounds ++ [⟨lines, .ok r⟩])
        (.error (.refused r.status (((Json.read? r.text).bind ErrorList.ofJson?).getD ⟨[]⟩)))
  | failed {rounds : List Round} {lines : List Line} {e : TransportError}
      (haccepted : ∀ round ∈ rounds, Accepts round.outcome)
      (hn : rounds.length < m.sizeInBytes.toNat ⌈/⌉ c.chunking.chunkSize.toNat) :
      Closes (rounds ++ [⟨lines, .error e⟩]) (.error (.transport e))

def ask (total : UInt32) (n : ℕ) : Outgoing :=
  ⟨"POST", url, headers, .form (uploadForm m (n + 1) total.toNat
    (content.extract (n * c.chunking.chunkSize.toNat) (c.chunking.stop m.sizeInBytes.toNat (n + 1))))⟩

end

variable {b : Build} {url : Http.Url} {headers : List (String × String)} {lines : List Line} {rounds : List Round}
  {round : Round} {outcome : Except TransportError Response} {result : Except ClientError Unit}

lemma InOrder.concat (h : c.InOrder m content url headers rounds) {q : Outgoing} {fields : List FormField}
    (hq : c.Asks m content url headers (rounds.length + 1) q) (hp : q = ⟨"POST", url, headers, .form fields⟩)
    (hvisit : Visit Http.maxRedirects q lines outcome) :
    c.InOrder m content url headers (rounds ++ [⟨lines, outcome⟩]) := by
  intro k hk
  rw [List.getElem_append]
  split
  · next hlt => exact h k hlt
  · next hge =>
    obtain rfl : k = rounds.length := by
      rw [List.length_append, List.length_singleton] at hk
      omega
    have hpost : q.method ≠ "HEAD" := by
      rw [hp]
      exact fun he => absurd he (by decide : "POST" ≠ "HEAD")
    obtain ⟨answer, rest, hlines, hreads⟩ := hvisit.exists_cons_reads (congrArg Outgoing.payload hp) hpost
    exact ⟨q, answer, rest, hq, by simpa using hlines, hreads, by simpa using hvisit⟩

/-- A reply that is no acceptance does not end an upload if it redirects to one. -/
theorem redirected_chunk_taken : ¬ ∀ (c : UploadClient) (b : Build) (m : FileMetadata) (content : Bytes)
    (x : Exchange (Except ClientError Unit)) (lines : List Line), c.upload b m content = .ok x → x.Ends lines (.ok ()) →
      ∀ line ∈ lines, ∃ r ∈ line.answer, r.status = 200 ∨ r.status = 201 := by
  intro h
  obtain ⟨r, hanswer, hstatus⟩ := h _ _ _ _ _ _ upload_two (ends_helloRedirected_append ends_helloDirect) _ List.mem_cons_self
  cases hanswer
  exact absurd hstatus (by decide)

end UploadClient

end ResumableUpload
