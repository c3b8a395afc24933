import ResumableUpload.Failure.ErrorList
import ResumableUpload.File.Health
import ResumableUpload.File.Status
import ResumableUpload.Proofs.Json.Document
import ResumableUpload.Proofs.Json.Record

/-! The documents about files are read back, also when others have put more into them. -/

namespace ResumableUpload

open Json (read_known)

namespace ContentItem

def known : Json → Json := Json.known [("dataset_id", id), ("edition", id), ("version", id)]

lemma ofJson?_known (j : Json) : ofJson? (known j) = ofJson? j := by
  refine read_known _ (fun _ => rfl) (fun values => ?_) j
  simp [Json.knownValues]

lemma ofJson?_toJson (c : ContentItem) : ofJson? c.toJson = some c := rfl

end ContentItem

namespace FileMetadata

def known : Json → Json :=
  Json.known [("path", id), ("is_publishable", id), ("collection_id", id), ("bundle_id", id), ("title", id),
    ("size_in_bytes", id), ("type", id), ("licence", id), ("licence_url", id), ("content_item", ContentItem.known)]

lemma ofJson?_known (j : Json) : ofJson? (known j) = ofJson? j := by
  refine read_known _ (fun _ => rfl) (fun values => ?_) j
  simp [Json.knownValues, Json.optional_map ContentItem.ofJson?_known fun _ => Json.known_eq_null]

lemma ofJson?_toJson (m : FileMetadata) : ofJson? m.toJson = some m := by
  have hitem := Json.optional_write ContentItem.ofJson?_toJson nofun m.contentItem
  rw [ofJson?, toJson, Json.record?_ofPresent (by simp)]
  simp [Json.optional_string, hitem, Json.required, Json.defaulted, Json.uint64?_toNat, Json.string?, Json.bool?]

end FileMetadata

namespace ProbeResult

def known : Json → Json := Json.known [("valid", id), ("error", id)]

lemma ofJson?_known (j : Json) : ofJson? (known j) = ofJson? j := by
  refine read_known _ (fun _ => rfl) (fun values => ?_) j
  simp [Json.knownValues]

lemma ofJson?_toJson (p : ProbeResult) : ofJson? p.toJson = some p := by
  rw [ofJson?, toJson, Json.record?_ofPresent (by simp)]
  simp [Json.optional_string, Json.required, Json.bool?]

end ProbeResult

namespace Status

def known : Json → Json :=
  Json.known [("metadata", FileMetadata.known), ("file_content", ProbeResult.known), ("encryption_key", ProbeResult.known)]

lemma ofJson?_known (j : Json) : ofJson? (known j) = ofJson? j := by
  refine read_known _ (fun _ => rfl) (fun values => ?_) j
  simp [Json.knownValues, Json.required_map FileMetadata.ofJson?_known, Json.required_map ProbeResult.ofJson?_known,
    Json.optional_map ProbeResult.ofJson?_known fun _ => Json.known_eq_null]

lemma ofJson?_toJson (s : Status) : ofJson? s.toJson = some s := by
  have hkey := Json.optional_write ProbeResult.ofJson?_toJson nofun s.encryptionKey
  rw [ofJson?, toJson, Json.record?_ofPresent (by simp)]
  simp [hkey, Json.required, FileMetadata.ofJson?_toJson, ProbeResult.ofJson?_toJson]

end Status

namespace Table

variable {κ α : Type} [DecidableEq κ]

lemma insert_entries {t : Table κ α} {k : κ} (h : k ∉ t.entries.map (·.1)) (a : α) :
    (t.insert k a).entries = t.entries ++ [(k, a)] := by
  have hkeys : ∀ e ∈ t.entries, decide (e.1 ≠ k) = true := by
    intro e he
    rw [decide_eq_true_eq]
    rintro rfl
    exact h (List.mem_map_of_mem he)
  change t.entries.filter (·.1 ≠ k) ++ [(k, a)] = _
  rw [List.filter_eq_self.mpr hkeys]

lemma foldl_insert (t : Table κ α) (l : List (κ × α)) (h : ((t.entries ++ l).map (·.1)).Nodup) :
    (l.foldl (fun t e => t.insert e.1 e.2) t).entries = t.entries ++ l := by
  induction l generalizing t with
  | nil => exact (List.append_nil _).symm
  | cons e l ih =>
    have hnew : e.1 ∉ t.entries.map (·.1) := by
      rw [List.map_append, List.nodup_append] at h
      exact fun he => h.2.2 _ he _ List.mem_cons_self rfl
    have hentries := insert_entries hnew e.2
    rw [List.foldl_cons, ih, hentries, List.append_assoc, List.singleton_append]
    rwa [hentries, List.append_assoc, List.singleton_append]

lemma ofList_entries (t : Table κ α) : ofList t.entries = t := by
  have hentries : (ofList t.entries).entries = t.entries := foldl_insert ∅ t.entries t.nodup
  generalize ofList t.entries = t' at hentries ⊢
  obtain ⟨entries, _⟩ := t
  obtain ⟨entries', _⟩ := t'
  cases hentries
  rfl

end Table

namespace Health

def known : Json → Json := Json.known [("status", id), ("checks", id)]

lemma ofJson?_known (j : Json) : ofJson? (known j) = ofJson? j := by
  refine read_known _ (fun _ => rfl) (fun values => ?_) j
  simp [Json.knownValues]

lemma checksOfJson?_write (t : Table String String) :
    checksOfJson? (.object (t.entries.map fun e => (e.1, .string e.2))) = some t := by
  have hentries : (t.entries.map fun e => (e.1, Json.string e.2)).mapM
      (fun e => e.2.string?.map (e.1, ·)) = some t.entries := by
    induction t.entries with
    | nil => rfl
    | cons e l ih =>
      rw [List.map_cons, List.mapM_cons, ih]
      rfl
  rw [checksOfJson?, Json.object?, Option.bind_eq_bind, Option.bind_some]
  change List.mapM (fun e : String × Json => e.2.string?.map (e.1, ·)) _ >>= _ = _
  rw [hentries]
  exact congrArg some (Table.ofList_entries t)

lemma ofJson?_toJson (h : Health) : ofJson? h.toJson = some h := by
  change (checksOfJson? (.object (h.checks.entries.map fun e => (e.1, .string e.2)))).bind _ = _
  rw [checksOfJson?_write]
  rfl

end Health

namespace ErrorEntry

def known : Json → Json := Json.known [("code", id), ("description", id)]

lemma ofJson?_known (j : Json) : ofJson? (known j) = ofJson? j := by
  refine read_known _ (fun _ => rfl) (fun values => ?_) j
  simp [Json.knownValues]

lemma ofJson?_toJson (e : ErrorEntry) : ofJson? e.toJson = some e := rfl

end ErrorEntry

namespace ErrorList

def known : Json → Json := Json.known [("errors", Json.knownItems ErrorEntry.known)]

lemma ofJson?_known (j : Json) : ofJson? (known j) = ofJson? j := by
  refine read_known _ (fun _ => rfl) (fun values => ?_) j
  have herrors := Json.mapM_array?_known ErrorEntry.ofJson?_known (values "errors")
  simp [Json.knownValues, ← Option.bind_assoc, herrors]

lemma ofJson?_toJson (l : ErrorList) : ofJson? l.toJson = some l := by
  change ((l.errors.map ErrorEntry.toJson).mapM ErrorEntry.ofJson?).bind _ = _
  rw [Json.mapM_write ErrorEntry.ofJson?_toJson]
  rfl

end ErrorList

end ResumableUpload
