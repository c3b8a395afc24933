import Mathlib.Computability.Language
import ResumableUpload.Form.Rules
import ResumableUpload.Proofs.Http.Url

/-! The paths and media types that the form of an upload accepts. -/

namespace ResumableUpload

namespace UploadPath

structure Allowed (path : String) : Prop where
  length : 1 ≤ path.toList.length ∧ path.toList.length ≤ 1024
  key : ∀ c ∈ path.toList, isKeyChar c = true
  relative : path.toList.head? ≠ some '/'
  downward : ['.', '.'] ∉ path.toList.splitOn '/'

lemma valid_iff {path : String} : valid path = true ↔ Allowed path := by
  simp only [valid, Bool.and_eq_true, decide_eq_true_eq, List.all_eq_true, Bool.not_eq_eq_eq_not, Bool.not_true,
    List.contains_eq_mem, decide_eq_false_iff_not]
  constructor
  · rintro ⟨⟨⟨⟨hpos, hle⟩, hkey⟩, hrelative⟩, hdownward⟩
    exact ⟨⟨hpos, hle⟩, hkey, hrelative, hdownward⟩
  · rintro ⟨⟨hpos, hle⟩, hkey, hrelative, hdownward⟩
    exact ⟨⟨⟨⟨hpos, hle⟩, hkey⟩, hrelative⟩, hdownward⟩

end UploadPath

namespace MediaTypeName

open scoped Computability

def oneOf (p : Char → Bool) : Language Char := {cs | ∃ c, p c = true ∧ cs = [c]}

def name : Language Char := oneOf Char.isAlphanum * (oneOf isNameChar)∗

def parameters : Language Char := (oneOf Text.isBlank)∗ * oneOf (· = ';') * (oneOf (· ≠ '\n'))∗

def pattern : Language Char := name * oneOf (· = '/') * name * (1 + parameters)

variable {p : Char → Bool} {c : Char} {cs rest : List Char}

lemma mem_oneOf : cs ∈ oneOf p ↔ ∃ c, p c = true ∧ cs = [c] := Iff.rfl

lemma mem_star_oneOf : cs ∈ (oneOf p)∗ ↔ ∀ c ∈ cs, p c = true := by
  rw [Language.mem_kstar]
  constructor
  · rintro ⟨words, rfl, hwords⟩ c hc
    obtain ⟨word, hword, hmem⟩ := List.mem_flatten.mp hc
    obtain ⟨d, hd, rfl⟩ := hwords word hword
    rwa [List.mem_singleton.mp hmem]
  · intro h
    refine ⟨cs.map ([·]), by rw [← List.flatMap_def, List.flatMap_singleton'], List.forall_mem_map.mpr ?_⟩
    exact fun c hc => ⟨c, h c hc, rfl⟩

lemma mem_name : cs ∈ name ↔ ∃ c rest, cs = c :: rest ∧ c.isAlphanum = true ∧ ∀ d ∈ rest, isNameChar d = true := by
  rw [name, Language.mem_mul]
  constructor
  · rintro ⟨_, ⟨c, hc, rfl⟩, rest, hrest, rfl⟩
    exact ⟨c, rest, rfl, hc, mem_star_oneOf.mp hrest⟩
  · rintro ⟨c, rest, rfl, hc, hrest⟩
    exact ⟨[c], ⟨c, hc, rfl⟩, rest, mem_star_oneOf.mpr hrest, rfl⟩

lemma mem_parameters : cs ∈ parameters ↔ ∃ blanks rest, cs = blanks ++ ';' :: rest ∧
    (∀ c ∈ blanks, Text.isBlank c = true) ∧ '\n' ∉ rest := by
  rw [parameters, Language.mem_mul]
  constructor
  · rintro ⟨_, ⟨blanks, hblanks, _, ⟨c, hc, rfl⟩, rfl⟩, rest, hrest, rfl⟩
    obtain rfl := of_decide_eq_true hc
    refine ⟨blanks, rest, List.append_assoc .., mem_star_oneOf.mp hblanks, fun hmem => ?_⟩
    exact of_decide_eq_true (mem_star_oneOf.mp hrest _ hmem) rfl
  · rintro ⟨blanks, rest, rfl, hblanks, hrest⟩
    refine ⟨blanks ++ [';'], ⟨blanks, mem_star_oneOf.mpr hblanks, [';'], ⟨';', rfl, rfl⟩, rfl⟩, rest, ?_, List.append_assoc ..⟩
    apply mem_star_oneOf.mpr
    exact fun c hc => decide_eq_true fun he => hrest (he ▸ hc)

lemma mem_pattern : cs ∈ pattern ↔ ∃ first ∈ name, ∃ second ∈ name, ∃ tail, (tail = [] ∨ tail ∈ parameters) ∧
    cs = first ++ '/' :: (second ++ tail) := by
  simp only [pattern, Language.mem_mul, mem_oneOf]
  constructor
  · rintro ⟨_, ⟨_, ⟨first, hfirst, _, ⟨c, hc, rfl⟩, rfl⟩, second, hsecond, rfl⟩, tail, htail, rfl⟩
    obtain rfl := of_decide_eq_true hc
    exact ⟨first, hfirst, second, hsecond, tail, htail, by simp⟩
  · rintro ⟨first, hfirst, second, hsecond, tail, htail, rfl⟩
    exact ⟨_, ⟨_, ⟨first, hfirst, _, ⟨'/', rfl, rfl⟩, rfl⟩, second, hsecond, rfl⟩, tail, htail, by simp⟩

lemma nameRest_append {first : List Char} (h : first ∈ name) (hrest : ∀ c ∈ rest.head?, isNameChar c = false) :
    nameRest (first ++ rest) = some rest := by
  obtain ⟨c, more, rfl, hc, hmore⟩ := mem_name.mp h
  rw [List.cons_append, nameRest, if_pos hc, List.dropWhile_append_of_pos hmore, Text.Trim.dropWhile_of_head hrest]

lemma exists_of_nameRest (h : nameRest cs = some rest) : ∃ first ∈ name, cs = first ++ rest := by
  cases cs with
  | nil => cases h
  | cons c more =>
    rw [nameRest] at h
    split at h
    · next hc =>
      cases h
      refine ⟨c :: more.takeWhile isNameChar, mem_name.mpr ⟨c, _, rfl, hc, ?_⟩, ?_⟩
      · exact fun d hd => List.mem_takeWhile_imp hd
      · rw [List.cons_append, List.takeWhile_append_dropWhile]
    · cases h

lemma isNameChar_range (h : isNameChar c = true) : 0x20 < c.toNat ∧ c.toNat < 0x7f := by
  rcases Bool.or_eq_true_iff.mp h with h | h
  · apply UploadPath.isKeyChar_range
    simp [UploadPath.isKeyChar, UploadPath.isLetterOrDigit, h]
  · have hall : "!#$&^_.+-".toList.all (fun c => 0x20 < c.toNat && c.toNat < 0x7f) = true := by decide
    simpa using List.all_eq_true.mp hall c (List.contains_iff_mem.mp h)

lemma isNameChar_of_isBlank (h : Text.isBlank c = true) : isNameChar c = false := by
  rw [Bool.eq_false_iff]
  intro hname
  obtain ⟨hlow, hhigh⟩ := isNameChar_range hname
  rw [Text.not_isBlank_of_range hlow hhigh] at h
  cases h

theorem valid_iff_mem_pattern {s : String} : valid s = true ↔ s.toList ∈ pattern := by
  rw [mem_pattern]
  constructor
  · intro h
    rw [valid] at h
    split at h
    · next rest hfirst =>
      obtain ⟨first, hname, heq⟩ := exists_of_nameRest hfirst
      split at h
      · next hsecond =>
        obtain ⟨second, hname', rfl⟩ := exists_of_nameRest hsecond
        exact ⟨first, hname, second, hname', [], .inl rfl, heq⟩
      · next tail htail hsecond =>
        obtain ⟨second, hname', rfl⟩ := exists_of_nameRest hsecond
        refine ⟨first, hname, second, hname', tail, .inr (mem_parameters.mpr ?_), heq⟩
        split at h
        · next more hmore =>
          refine ⟨tail.takeWhile Text.isBlank, more, ?_, fun c hc => List.mem_takeWhile_imp hc, by simpa using h⟩
          rw [← hmore, List.takeWhile_append_dropWhile]
        · cases h
      · cases h
    · cases h
  · rintro ⟨first, hfirst, second, hsecond, tail, htail, heq⟩
    have hslash : nameRest s.toList = some ('/' :: (second ++ tail)) := by
      rw [heq]
      apply nameRest_append hfirst
      rintro c ⟨⟩
      decide
    rw [valid, hslash]
    simp only []
    rcases htail with rfl | htail
    · rw [nameRest_append hsecond (by simp)]
    · obtain ⟨blanks, rest, rfl, hblanks, hrest⟩ := mem_parameters.mp htail
      have hopen : ∀ c ∈ (blanks ++ ';' :: rest).head?, isNameChar c = false := by
        cases blanks with
        | nil =>
          rintro c ⟨⟩
          decide
        | cons b blanks =>
          rintro c ⟨⟩
          exact isNameChar_of_isBlank (hblanks b List.mem_cons_self)
      have hdrop : (blanks ++ ';' :: rest).dropWhile Text.isBlank = ';' :: rest := by
        rw [List.dropWhile_append_of_pos hblanks, List.dropWhile_cons_of_neg (by decide)]
      rw [nameRest_append hsecond hopen]
      split
      · rfl
      · next h =>
        obtain rfl := Option.some.inj h
        rw [hdrop]
        simpa using hrest
      · next h => cases h

end MediaTypeName

end ResumableUpload
