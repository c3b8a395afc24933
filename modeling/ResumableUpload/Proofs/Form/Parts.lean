import ResumableUpload.Form.Decoding
import ResumableUpload.Proofs.Text.Trim

/-! What the parts of a form say: the last part of a name counts, and one part is the file. -/

namespace ResumableUpload

open FormDecoding (fileField)
open Http (FormData FormPart)

namespace Http.FormData

variable (data : FormData)

structure Whole : Prop where
  closed : data.closed = true
  contents : ∀ p ∈ data.parts, ∃ content, p.content = some content

def Says (name raw : String) : Prop :=
  ∃ before part after content, data.parts = before ++ part :: after ∧ part.name = name ∧
    part.content = some content ∧ part.textOf content = raw ∧ ∀ p ∈ after, p.name ≠ name

def Gives (name value : String) : Prop := value ≠ "" ∧ ∃ raw, data.Says name raw ∧ Text.Trims raw value

end Http.FormData

namespace FormDecoding

def field? (p : FormPart) : Option (String × String) :=
  if p.name = fileField then none else p.content.map fun content => (p.name, p.textOf content)

def file? (p : FormPart) : Option Bytes := if p.name = fileField then p.content else none

variable {data : FormData} {name value : String}

lemma collect_eq_ok {closed : Bool} {parts : List FormPart} {fields fields' : FormFields} {file file' : Option Bytes} :
    collect closed parts fields file = .ok (fields', file') ↔
      closed = true ∧ (∀ p ∈ parts, ∃ content, p.content = some content) ∧
        fields ++ parts.filterMap field? = fields' ∧ file.toList ++ parts.filterMap file? = file'.toList := by
  induction parts generalizing fields file with
  | nil =>
    rw [collect]
    split
    · next hclosed => cases file <;> cases file' <;> simp [hclosed]
    · next hclosed => simp [hclosed]
  | cons part rest ih =>
    rw [List.forall_mem_cons]
    cases hc : part.content with
    | none =>
      by_cases hname : part.name = fileField
      · cases file <;> simp [collect, hname, hc]
      · simp [collect, hname, hc]
    | some content =>
      by_cases hname : part.name = fileField
      · have hentry : field? part = none := if_pos hname
        have hpart : file? part = some content := (if_pos hname).trans hc
        rw [List.filterMap_cons_none hentry, List.filterMap_cons_some hpart]
        cases file with
        | none =>
          have hstep : collect closed (part :: rest) fields none = collect closed rest fields (some content) := by
            simp [collect, hname, hc]
          rw [hstep, ih]
          simp
        | some earlier => cases file' <;> simp [collect, hname]
      · have hentry : field? part = some (part.name, part.textOf content) := by
          rw [field?, if_neg hname, hc, Option.map_some]
        have hpart : file? part = none := if_neg hname
        have hstep : collect closed (part :: rest) fields file =
            collect closed rest (fields ++ [(part.name, part.textOf content)]) file := by simp [collect, hname, hc]
        rw [List.filterMap_cons_some hentry, List.filterMap_cons_none hpart, hstep, ih, List.append_cons]
        simp

def texts (data : FormData) : FormFields := data.parts.filterMap field?

lemma any_field? {p : FormPart} (hp : ∃ content, p.content = some content) (hn : name ≠ fileField) :
    ((field? p).any fun e => e.1 = name) = decide (p.name = name) := by
  obtain ⟨content, hc⟩ := hp
  by_cases hname : p.name = fileField
  · rw [field?, if_pos hname, hname]
    exact (decide_eq_false hn.symm).symm
  · rw [field?, if_neg hname, hc]
    rfl

lemma says_iff (hw : data.Whole) (hn : name ≠ fileField) {raw : String} : data.Says name raw ↔
    ∃ e, (texts data).reverse.find? (·.1 = name) = some e ∧ e.2 = raw := by
  have hany : ∀ p ∈ data.parts, ((field? p).any fun e => e.1 = name) = decide (p.name = name) :=
    fun p hp => any_field? (hw.contents p hp) hn
  rw [texts, ← List.filterMap_reverse, List.find?_filterMap]
  simp only [Option.bind_eq_some_iff, List.find?_eq_some_iff_append]
  constructor
  · rintro ⟨before, part, after, content, hparts, hname, hc, htext, hafter⟩
    have hentry : field? part = some (part.name, part.textOf content) := by
      rw [field?, if_neg (hname ▸ hn), hc, Option.map_some]
    refine ⟨_, ⟨part, ⟨?_, after.reverse, before.reverse, ?_, ?_⟩, hentry⟩, htext⟩
    · rw [hany part (by simp [hparts])]
      exact decide_eq_true hname
    · simp [hparts]
    · intro p hp
      have hmem : p ∈ after := List.mem_reverse.mp hp
      rw [hany p (by simp [hparts, hmem])]
      simpa using hafter p hmem
  · rintro ⟨e, ⟨part, ⟨hpart, after, before, hreverse, hafter⟩, hentry⟩, rfl⟩
    have hparts : data.parts = before.reverse ++ part :: after.reverse := by
      rw [← List.reverse_reverse data.parts, hreverse]
      simp
    rw [hany part (by simp [hparts]), decide_eq_true_eq] at hpart
    obtain ⟨content, hc⟩ := hw.contents part (by simp [hparts])
    rw [field?, if_neg (hpart ▸ hn), hc, Option.map_some] at hentry
    refine ⟨before.reverse, part, after.reverse, content, hparts, hpart, hc, ?_, ?_⟩
    · rw [← Option.some.inj hentry]
    · intro p hp
      have hmem : p ∈ after := List.mem_reverse.mp hp
      have hp' := hafter p hmem
      rw [hany p (by simp [hparts, hmem])] at hp'
      simpa using hp'

lemma gives_iff (hw : data.Whole) (hn : name ≠ fileField) : data.Gives name value ↔ (texts data).text? name = some value := by
  simp only [FormFields.text?, Option.filter_eq_some_iff, Option.map_eq_some_iff, FormData.Gives, says_iff hw hn]
  constructor
  · rintro ⟨hne, raw, ⟨e, he, rfl⟩, htrims⟩
    exact ⟨⟨e, he, Text.trim_eq_iff.mpr htrims⟩, decide_eq_true hne⟩
  · rintro ⟨⟨e, he, htrim⟩, hne⟩
    exact ⟨of_decide_eq_true hne, e.2, ⟨e, he, rfl⟩, Text.trim_eq_iff.mp htrim⟩

lemma length_files {parts : List FormPart} (h : ∀ p ∈ parts, ∃ content, p.content = some content) :
    (parts.filterMap file?).length = (parts.filter (·.name = fileField)).length := by
  induction parts with
  | nil => rfl
  | cons part rest ih =>
    obtain ⟨⟨content, hc⟩, hrest⟩ := List.forall_mem_cons.mp h
    by_cases hname : part.name = fileField
    · have hpart : file? part = some content := (if_pos hname).trans hc
      rw [List.filterMap_cons_some hpart]
      simp [hname, ih hrest]
    · have hpart : file? part = none := if_neg hname
      rw [List.filterMap_cons_none hpart]
      simp [hname, ih hrest]

end FormDecoding

end ResumableUpload
