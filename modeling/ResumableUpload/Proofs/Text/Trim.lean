import Mathlib.Data.List.TakeWhile
import Mathlib.Tactic
import ResumableUpload.File.ETag

/-! What trimming leaves of a text, and of an entity tag. -/

namespace ResumableUpload

namespace Text.Trim

variable {p : Char → Bool} {cs front back : List Char} {c : Char}

lemma start_eq_both_append : start p cs = both p cs ++ ((start p cs).reverse.takeWhile p).reverse := by
  rw [both, stop, ← List.reverse_append, List.takeWhile_append_dropWhile, List.reverse_reverse]

lemma exists_both (p : Char → Bool) (cs : List Char) :
    ∃ front back, cs = front ++ both p cs ++ back ∧ (∀ c ∈ front, p c = true) ∧ ∀ c ∈ back, p c = true := by
  refine ⟨cs.takeWhile p, ((start p cs).reverse.takeWhile p).reverse, ?_, ?_, ?_⟩
  · rw [List.append_assoc, ← start_eq_both_append]
    exact List.takeWhile_append_dropWhile.symm
  · exact fun c hc => List.mem_takeWhile_imp hc
  · exact fun c hc => List.mem_takeWhile_imp (List.mem_reverse.mp hc)

lemma not_of_head_dropWhile {l : List Char} (h : (l.dropWhile p).head? = some c) : p c = false := by
  have hnot := List.head?_dropWhile_not p l
  rw [h] at hnot
  exact hnot

lemma not_of_head_both (h : (both p cs).head? = some c) : p c = false := by
  apply not_of_head_dropWhile (l := cs)
  change (start p cs).head? = some c
  rw [start_eq_both_append, List.head?_append, h]
  rfl

lemma not_of_getLast_both (h : (both p cs).getLast? = some c) : p c = false := by
  rw [both, stop, List.getLast?_reverse] at h
  exact not_of_head_dropWhile h

lemma start_append {front rest : List Char} (hc : p c = false) :
    start p (front ++ c :: rest) = start p front ++ c :: rest := by
  rw [start, start, List.dropWhile_append]
  split
  · next he => rw [List.isEmpty_iff.mp he, List.nil_append, List.dropWhile_cons_of_neg (by simp [hc])]
  · rfl

lemma stop_append_singleton {front : List Char} (hc : p c = false) : stop p (front ++ [c]) = front ++ [c] := by
  rw [stop, List.reverse_append, List.reverse_singleton, List.singleton_append, List.dropWhile_cons_of_neg (by simp [hc]),
    List.reverse_cons, List.reverse_reverse]

lemma mem_dropWhile {l : List Char} (hc : p c = false) : c ∈ l.dropWhile p ↔ c ∈ l := by
  refine ⟨fun h => (List.dropWhile_sublist p).mem h, fun h => ?_⟩
  rw [← List.takeWhile_append_dropWhile (p := p) (l := l), List.mem_append] at h
  refine h.resolve_left fun hmem => ?_
  rw [List.mem_takeWhile_imp hmem] at hc
  exact Bool.noConfusion hc

lemma getLast?_both {front : List Char} {d : Char} (hc : p c = false) (hd : p d = true) :
    (both p (front ++ [c, d])).getLast? = some c := by
  rw [both, start_append hc, stop, List.getLast?_reverse, List.reverse_append]
  simp [hc, hd]

lemma dropWhile_of_head (h : ∀ c ∈ cs.head?, p c = false) : cs.dropWhile p = cs := by
  cases cs with
  | nil => rfl
  | cons c rest => exact List.dropWhile_cons_of_neg (by simp [h c rfl])

lemma both_append (hfront : ∀ c ∈ front, p c = true) (hback : ∀ c ∈ back, p c = true)
    (hhead : ∀ c ∈ cs.head?, p c = false) (hlast : ∀ c ∈ cs.getLast?, p c = false) :
    both p (front ++ cs ++ back) = cs := by
  rw [both, start, List.append_assoc, List.dropWhile_append_of_pos hfront]
  cases cs with
  | nil =>
    rw [List.nil_append, List.dropWhile_eq_nil_iff.mpr hback]
    rfl
  | cons c rest =>
    have hstart : (c :: rest ++ back).dropWhile p = c :: rest ++ back := dropWhile_of_head hhead
    have hstop : (c :: rest).reverse.dropWhile p = (c :: rest).reverse := by
      apply dropWhile_of_head
      rwa [List.head?_reverse]
    rw [hstart, stop, List.reverse_append,
      List.dropWhile_append_of_pos fun d hd => hback d (List.mem_reverse.mp hd), hstop, List.reverse_reverse]

end Text.Trim

namespace Text

lemma not_isBlank_of_range {c : Char} (hlow : 0x20 < c.toNat) (hhigh : c.toNat < 0x7f) : isBlank c = false := by
  simp only [isBlank, Bool.or_eq_false_iff, Bool.and_eq_false_iff, decide_eq_false_iff_not, beq_eq_false_iff_ne]
  omega

structure Trims (raw value : String) : Prop where
  blanks : ∃ front back, raw.toList = front ++ value.toList ++ back ∧ (∀ c ∈ front, isBlank c = true) ∧
    ∀ c ∈ back, isBlank c = true
  head : ∀ c ∈ value.toList.head?, isBlank c = false
  last : ∀ c ∈ value.toList.getLast?, isBlank c = false

lemma trim_eq_iff {raw value : String} : trim raw = value ↔ Trims raw value := by
  rw [trim, trimBy]
  constructor
  · rintro rfl
    refine ⟨?_, ?_, ?_⟩
    · rw [String.toList_ofList]
      exact Trim.exists_both isBlank raw.toList
    · rw [String.toList_ofList]
      exact fun c hc => Trim.not_of_head_both hc
    · rw [String.toList_ofList]
      exact fun c hc => Trim.not_of_getLast_both hc
  · rintro ⟨⟨front, back, hraw, hfront, hback⟩, hhead, hlast⟩
    rw [hraw, Trim.both_append hfront hback hhead hlast, String.ofList_toList]

end Text

namespace ETag

/-- `etag` is what stands between the quotes at either end of `raw`. -/
structure Strips (raw etag : String) : Prop where
  quoted : ∃ m n, raw.toList = List.replicate m '"' ++ etag.toList ++ List.replicate n '"'
  front : etag.toList.head? ≠ some '"'
  back : etag.toList.getLast? ≠ some '"'

lemma unquote_strips (raw : String) : Strips raw (unquote raw) := by
  have hlist : (unquote raw).toList = Text.Trim.both (· = '"') raw.toList := by
    rw [unquote, Text.trimBy, String.toList_ofList]
  obtain ⟨front, back, heq, hfront, hback⟩ := Text.Trim.exists_both (· = '"') raw.toList
  have hquotes : ∀ l : List Char, (∀ c ∈ l, decide (c = '"') = true) → l = List.replicate l.length '"' :=
    fun l hl => List.eq_replicate_of_mem fun c hc => of_decide_eq_true (hl c hc)
  refine ⟨⟨front.length, back.length, ?_⟩, fun h => ?_, fun h => ?_⟩
  · rw [hlist, ← hquotes front hfront, ← hquotes back hback]
    exact heq
  · rw [hlist] at h
    simpa using Text.Trim.not_of_head_both h
  · rw [hlist] at h
    simpa using Text.Trim.not_of_getLast_both h

lemma getLast?_unquote {raw : String} {front : List Char} {c : Char} (h : raw.toList = front ++ [c, '"'])
    (hc : c ≠ '"') : (unquote raw).toList.getLast? = some c := by
  rw [unquote, Text.trimBy, String.toList_ofList, h]
  exact Text.Trim.getLast?_both (decide_eq_false hc) (decide_eq_true rfl)

end ETag

end ResumableUpload
