import ResumableUpload.Proofs.Client.Reach

/-! What a server has answered when a client reports that a file was uploaded. -/

namespace ResumableUpload.UploadClient

open Client (Build ClientError)
open Http (Exchange Line Response TransportError Visit)

variable {c : UploadClient} {b : Build} {m : FileMetadata} {content bytes : Bytes} {n total index : Nat}
  {lines : List Line} {result : Except ClientError Unit}

def Accepts (outcome : Except TransportError Response) : Prop :=
  ∃ response, outcome = .ok response ∧ (response.status = 200 ∨ response.status = 201)

/-- The chunk with an index is sent, and accepted by the answer in which its redirects end. -/
def Took (c : UploadClient) (m : FileMetadata) (content : Bytes) (total index : Nat) (lines : List Line) : Prop :=
  ∃ bytes q outcome, slice? content c.chunking.chunkSize.toNat m.sizeInBytes.toNat index = some bytes ∧
    q.payload = .form (uploadForm m (index + 1) total bytes) ∧ Visit Http.maxRedirects q lines outcome ∧ Accepts outcome

lemma ofUpload_eq_ok {r : Response} : ofUpload (.ok r) = .ok () ↔ r.status = 200 ∨ r.status = 201 := by
  rw [ofUpload]
  split_ifs with h
  · simp [h]
  · simp [h]

lemma ofUpload_ok_iff {outcome : Except TransportError Response} : ofUpload outcome = .ok () ↔ Accepts outcome := by
  cases outcome with
  | error e => exact iff_of_false nofun nofun
  | ok r => simp [Accepts, ofUpload_eq_ok]

lemma of_sendChunk (h : (c.sendChunk m n total bytes).Ends lines result) : lines = [] ∧ result ≠ .ok () ∨
    ∃ q outcome, q.payload = .form (uploadForm m n total bytes) ∧ Visit Http.maxRedirects q lines outcome ∧
      (result = .ok () ↔ Accepts outcome) := by
  obtain ⟨received, hsend, rfl⟩ := Dialogue.Yields.of_map h
  rcases Http.of_ends_send hsend with ⟨e, -, rfl, rfl⟩ | ⟨q, hbuild, hvisit⟩
  · exact .inl ⟨rfl, nofun⟩
  · exact .inr ⟨q, received, Http.payload_of_build hbuild, hvisit, ofUpload_ok_iff⟩

lemma forall₂_took_cons {before behind : List Line} {q : Http.Outgoing} {outcome : Except TransportError Response}
    {bytes : Bytes} {indices : List Nat}
    (hslice : slice? content c.chunking.chunkSize.toNat m.sizeInBytes.toNat index = some bytes)
    (hpayload : q.payload = .form (uploadForm m (index + 1) total bytes))
    (hvisit : Visit Http.maxRedirects q before outcome) :
    (∃ visits, before ++ behind = visits.flatten ∧ List.Forall₂ (c.Took m content total) (index :: indices) visits) ↔
      Accepts outcome ∧ ∃ visits, behind = visits.flatten ∧ List.Forall₂ (c.Took m content total) indices visits := by
  constructor
  · rintro ⟨_, hlines, htook⟩
    obtain ⟨visit, visits, ⟨_, _, _, -, -, hvisit', haccepts⟩, hrest, rfl⟩ := List.forall₂_cons_left_iff.mp htook
    rw [List.flatten_cons] at hlines
    obtain ⟨-, rfl, rfl⟩ := hvisit.append_inj hvisit' hlines
    exact ⟨haccepts, visits, rfl, hrest⟩
  · rintro ⟨haccepts, visits, rfl, hrest⟩
    exact ⟨before :: visits, rfl, .cons ⟨bytes, q, outcome, hslice, hpayload, hvisit, haccepts⟩ hrest⟩

lemma not_forall₂_took_nil {indices : List Nat} : ¬ ∃ visits : List (List Line), [] = visits.flatten ∧
    List.Forall₂ (c.Took m content total) (index :: indices) visits := by
  rintro ⟨_, hlines, htook⟩
  obtain ⟨visit, visits, ⟨_, _, _, -, -, hvisit, -⟩, hrest, rfl⟩ := List.forall₂_cons_left_iff.mp htook
  exact hvisit.ne_nil (List.append_eq_nil_iff.mp hlines.symm).1

lemma sendChunks_ok_iff {total : UInt32} {left : Nat} (htotal : total.toNat = c.chunking.count m.sizeInBytes.toNat)
    (hsum : index + left = total.toNat)
    (h : (c.sendChunks m content total left (c.chunking.stop m.sizeInBytes.toNat index)).Ends lines result) :
    result = .ok () ↔ ∃ visits, lines = visits.flatten ∧
      List.Forall₂ (c.Took m content total.toNat) (List.range' index left) visits := by
  induction left generalizing index lines with
  | zero =>
    cases h
    simp
  | succ left ih =>
    rw [sendChunks_succ htotal hsum] at h
    rw [List.range'_succ]
    split at h
    · cases h
      exact iff_of_false nofun not_forall₂_took_nil
    · next bytes hslice =>
      obtain ⟨first, ⟨⟩, before, behind, hchunk, hrest, rfl⟩ := Dialogue.Yields.of_bind h
      rcases of_sendChunk hchunk with ⟨rfl, hfirst⟩ | ⟨q, outcome, hpayload, hvisit, hfirst⟩
      · cases first with
        | ok => exact absurd rfl hfirst
        | error e =>
          cases hrest
          exact iff_of_false nofun not_forall₂_took_nil
      · rw [forall₂_took_cons hslice hpayload hvisit, ← hfirst]
        cases first with
        | ok =>
          rw [ih (by omega) hrest]
          simp
        | error e =>
          cases hrest
          simp

/-- An upload that begins ends well if, and only if, the chunks of a file that is neither empty nor too large were sent
in order, and each was accepted once its redirects had been followed. -/
theorem upload_ok_iff {x : Exchange (Except ClientError Unit)} (hx : c.upload b m content = .ok x)
    (h : x.Ends lines result) : result = .ok () ↔
      m.sizeInBytes ≤ c.chunking.maxFileSize ∧ 0 < c.chunking.count m.sizeInBytes.toNat ∧
        ∃ visits, lines = visits.flatten ∧
          List.Forall₂ (c.Took m content (c.chunking.count m.sizeInBytes.toNat))
            (List.range (c.chunking.count m.sizeInBytes.toNat)) visits := by
  rcases upload_cases c b m content with ⟨-, hpanic⟩ | ⟨-, hcases⟩
  · cases hx.symm.trans hpanic
  rcases hcases with ⟨hzero, hupload⟩ | ⟨hlarge, hupload⟩ | ⟨⟨hne, hfits⟩, total, htotal, hupload⟩ <;>
    cases hx.symm.trans hupload
  · cases h
    simp [hzero, Client.Chunking.count]
  · cases h
    simp [UInt64.not_le.mpr hlarge]
  · rw [sendChunks_ok_iff htotal (Nat.zero_add _) h, htotal, ← List.range_eq_range']
    exact ⟨fun h => ⟨hfits, Client.Chunking.count_pos hfits hne, h⟩, fun h => h.2.2⟩

lemma ends_sendChunk {q : Http.Outgoing} {outcome : Except TransportError Response}
    (hq : Http.build "POST" (c.base ++ "/upload-new") c.credentials (.form (uploadForm m n total bytes)) = .ok q)
    (hvisit : Visit Http.maxRedirects q lines outcome) : (c.sendChunk m n total bytes).Ends lines (ofUpload outcome) :=
  (hvisit.ends_send hq).map ofUpload

lemma ends_sendChunks_succ {left : Nat} {total : UInt32} {before behind : List Line} {q : Http.Outgoing}
    {outcome : Except TransportError Response}
    (htotal : total.toNat = c.chunking.count m.sizeInBytes.toNat) (hsum : index + (left + 1) = total.toNat)
    (hslice : slice? content c.chunking.chunkSize.toNat m.sizeInBytes.toNat index = some bytes)
    (hq : Http.build "POST" (c.base ++ "/upload-new") c.credentials (.form (uploadForm m (index + 1) total.toNat bytes)) =
      .ok q) (hvisit : Visit Http.maxRedirects q before outcome) (haccepts : Accepts outcome)
    (hrest : (c.sendChunks m content total left (c.chunking.stop m.sizeInBytes.toNat (index + 1))).Ends behind result) :
    (c.sendChunks m content total (left + 1) (c.chunking.stop m.sizeInBytes.toNat index)).Ends (before ++ behind)
      result := by
  rw [sendChunks_succ htotal hsum, hslice]
  apply (ends_sendChunk hq hvisit).bind
  rw [ofUpload_ok_iff.mpr haccepts]
  exact hrest

def helloChunk (total n : Nat) (bytes : Bytes) : Http.Outgoing :=
  ⟨"POST", .least, (least {}).credentials, .form (uploadForm (.least 5) n total bytes)⟩

def bare (status : Nat) : Response := ⟨status, none, .empty, none⟩

lemma visit_bare {hops : Nat} {q : Http.Outgoing} : Visit hops q [⟨q, some (bare 200)⟩] (.ok (bare 200)) := .answered rfl

lemma accepts_bare : Accepts (.ok (bare 200)) := ⟨_, rfl, .inl rfl⟩

def helloContinuing : Line := ⟨helloChunk 1 1 hello, some (bare 200)⟩

lemma ends_hello : ∃ x, (least {}).upload .checked (.least 5) hello = .ok x ∧ x.Ends [helloContinuing] (.ok ()) := by
  have hlimit : (least {}).chunking.maxFileSize? .checked = .ok 52428800000 := by decide
  obtain ⟨total, htotal, hupload⟩ := exists_upload_eq (m := .least 5) hlimit (by decide) (by decide) hello
  have hone : total.toNat = 1 := by
    rw [htotal, Client.Chunking.count, Client.Chunking.ceilDiv_eq _ (by decide)]
    rfl
  obtain rfl : total = 1 := UInt32.toNat_inj.mp hone
  have hslice : slice? hello (least {}).chunking.chunkSize.toNat 5 0 = some hello := rfl
  exact ⟨_, hupload,
    ends_sendChunks_succ htotal rfl hslice (Http.build_payload (build_least {}) _) visit_bare accepts_bare .done⟩

theorem uploaded_without_completion : ¬ ∀ (c : UploadClient) (b : Build) (m : FileMetadata) (content : Bytes)
    (x : Exchange (Except ClientError Unit)) (lines : List Line), c.upload b m content = .ok x →
      x.Ends lines (.ok ()) → ∃ line ∈ lines, ∃ response ∈ line.answer, response.status = 201 := by
  intro h
  obtain ⟨x, hupload, hends⟩ := ends_hello
  obtain ⟨line, hline, response, hanswer, hstatus⟩ := h _ _ _ _ _ _ hupload hends
  obtain rfl := List.mem_singleton.mp hline
  cases hanswer
  exact absurd hstatus (by decide)

def helloSeen : Http.Url := { Http.Url.least with path := "/seen" }

def helloRedirected : List Line :=
  [⟨helloChunk 2 1 ⟨#[0x68, 0x65, 0x6c]⟩, some ⟨303, none, .empty, some helloSeen⟩⟩,
    ⟨⟨"GET", helloSeen, (least {}).credentials, .empty⟩, some (bare 200)⟩]

def helloDirect : List Line := [⟨helloChunk 2 2 ⟨#[0x6c, 0x6f]⟩, some (bare 200)⟩]

lemma visit_helloRedirected :
    Visit Http.maxRedirects (helloChunk 2 1 ⟨#[0x68, 0x65, 0x6c]⟩) helloRedirected (.ok (bare 200)) := by
  have hsend : helloSeen.isSendable = true := by decide
  apply Visit.redirected _ _ visit_bare
  · rw [Http.Outgoing.redirected?, Option.filter_some, hsend]
    rfl
  · rfl

lemma count_two : (2 : UInt32).toNat = (least ⟨3, 2⟩).chunking.count (FileMetadata.least 5).sizeInBytes.toNat := by
  rw [Client.Chunking.count, Client.Chunking.ceilDiv_eq _ (by decide)]
  rfl

lemma upload_two : (least ⟨3, 2⟩).upload .checked (.least 5) hello =
    .ok ((least ⟨3, 2⟩).sendChunks (.least 5) hello 2 2 ((least ⟨3, 2⟩).chunking.stop 5 0)) := by
  have hlimit : (least ⟨3, 2⟩).chunking.maxFileSize? .checked = .ok 6 := by decide
  obtain ⟨total, htotal, hupload⟩ := exists_upload_eq (m := .least 5) hlimit (by decide) (by decide) hello
  obtain rfl : total = 2 := UInt32.toNat_inj.mp (htotal.trans count_two.symm)
  exact hupload

lemma slice?_second : slice? hello (least ⟨3, 2⟩).chunking.chunkSize.toNat 5 1 = some ⟨#[0x6c, 0x6f]⟩ := rfl

lemma ends_helloRedirected_append {behind : List Line}
    (hrest : ((least ⟨3, 2⟩).sendChunks (.least 5) hello 2 1 ((least ⟨3, 2⟩).chunking.stop 5 1)).Ends behind result) :
    ((least ⟨3, 2⟩).sendChunks (.least 5) hello 2 2 ((least ⟨3, 2⟩).chunking.stop 5 0)).Ends (helloRedirected ++ behind)
      result := by
  have hslice : slice? hello (least ⟨3, 2⟩).chunking.chunkSize.toNat 5 0 = some ⟨#[0x68, 0x65, 0x6c]⟩ := rfl
  exact ends_sendChunks_succ count_two rfl hslice (Http.build_payload (build_least ⟨3, 2⟩) _) visit_helloRedirected
    accepts_bare hrest

lemma ends_helloDirect : ((least ⟨3, 2⟩).sendChunks (.least 5) hello 2 1 ((least ⟨3, 2⟩).chunking.stop 5 1)).Ends
    helloDirect (.ok ()) :=
  ends_sendChunks_succ count_two rfl slice?_second (Http.build_payload (build_least ⟨3, 2⟩) _) visit_bare accepts_bare
    .done

theorem hello_accepted : ∃ x visits, (least ⟨3, 2⟩).upload .checked (.least 5) hello = .ok x ∧
    x.Ends (helloRedirected ++ helloDirect) (.ok ()) ∧ helloRedirected ++ helloDirect = visits.flatten ∧
    List.Forall₂ ((least ⟨3, 2⟩).Took (.least 5) hello 2) [0, 1] visits := by
  have hends := ends_helloRedirected_append ends_helloDirect
  obtain ⟨-, -, visits, hlines, htook⟩ := (upload_ok_iff upload_two hends).mp rfl
  rw [← count_two] at htook
  exact ⟨_, visits, upload_two, hends, hlines, htook⟩

end ResumableUpload.UploadClient
