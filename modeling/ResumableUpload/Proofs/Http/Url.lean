import ResumableUpload.Form.Rules
import ResumableUpload.Http.Url
import ResumableUpload.Proofs.Text.Split
import ResumableUpload.Proofs.Text.Trim

/-! What becomes of the path of a file at the end of an address, when the address is read. -/

namespace ResumableUpload

namespace UploadPath

def undotted : List (List Char) → List (List Char)
  | [] => []
  | segment :: rest =>
    if segment = ['.'] then if rest = [] then [[]] else undotted rest else segment :: undotted rest

def IsKey (cs : List Char) : Prop := ∀ c ∈ cs, isKeyChar c = true

lemma isKeyChar_range {c : Char} (h : isKeyChar c = true) : 0x20 < c.toNat ∧ c.toNat < 0x7f := by
  unfold isKeyChar isLetterOrDigit Char.isAlphanum Char.isAlpha Char.isUpper Char.isLower Char.isDigit at h
  simp only [Bool.or_eq_true, Bool.and_eq_true, decide_eq_true_eq] at h
  rcases h with ((((((h | h) | h) | rfl) | rfl) | rfl) | rfl)
  · exact ⟨Nat.lt_of_lt_of_le (by decide) h.1, Nat.lt_of_le_of_lt h.2 (by decide)⟩
  · exact ⟨Nat.lt_of_lt_of_le (by decide) h.1, Nat.lt_of_le_of_lt h.2 (by decide)⟩
  · exact ⟨Nat.lt_of_lt_of_le (by decide) h.1, Nat.lt_of_le_of_lt h.2 (by decide)⟩
  all_goals decide

lemma ne_of_isKeyChar {c d : Char} (hc : isKeyChar c = true) (hd : isKeyChar d = false) : c ≠ d := by
  rintro rfl
  exact Bool.noConfusion (hc.symm.trans hd)

lemma IsKey.not_mem {cs : List Char} {d : Char} (h : IsKey cs) (hd : isKeyChar d = false) : d ∉ cs :=
  fun hmem => ne_of_isKeyChar (h d hmem) hd rfl

lemma mem_undotted {segment : List Char} {segments : List (List Char)} (h : segment ∈ undotted segments) :
    segment = [] ∨ segment ∈ segments := by
  induction segments with
  | nil => exact .inr h
  | cons first rest ih =>
    rw [undotted] at h
    split at h
    · split at h
      · exact .inl (List.mem_singleton.mp h)
      · exact (ih h).imp_right (List.mem_cons_of_mem _)
    · rcases List.mem_cons.mp h with rfl | h
      · exact .inr List.mem_cons_self
      · exact (ih h).imp_right (List.mem_cons_of_mem _)

lemma of_mem_segments {cs segment : List Char} (h : IsKey cs) (hs : segment ∈ segments cs) :
    IsKey segment ∧ '/' ∉ segment := by
  have hmem := Text.of_mem_splitOnP hs
  exact ⟨fun c hc => h c (hmem c hc).1, fun hslash => by simpa using (hmem _ hslash).2⟩

lemma of_mem_undotted {cs segment : List Char} (h : IsKey cs) (hs : segment ∈ undotted (segments cs)) :
    IsKey segment ∧ '/' ∉ segment := by
  rcases mem_undotted hs with rfl | hs
  · exact ⟨List.forall_mem_nil _, List.not_mem_nil⟩
  · exact of_mem_segments h hs

structure Plain (cs : List Char) : Prop where
  isKey : IsKey cs
  ne_nil : cs ≠ []
  not_slash : cs.head? ≠ some '/'
  not_up : ['.', '.'] ∉ segments cs

lemma plain_of_valid {path : String} (h : valid path = true) : Plain path.toList := by
  simp only [valid, Bool.and_eq_true, decide_eq_true_eq, Bool.not_eq_true', List.all_eq_true] at h
  obtain ⟨⟨⟨⟨hlen, -⟩, hkey⟩, hhead⟩, hup⟩ := h
  exact ⟨hkey, List.ne_nil_of_length_pos hlen, hhead, by simpa using hup⟩

end UploadPath

open UploadPath (IsKey isKeyChar undotted ne_of_isKeyChar)

namespace Text.Percent

lemma escape_append (unsafeChars : String) (front rest : List Char) :
    escape unsafeChars (front ++ rest) = escape unsafeChars front ++ escape unsafeChars rest := by
  rw [escape, escape, escape, List.flatMap_append, String.ofList_append]

lemma escape_of_isKey {unsafeChars : String} {cs : List Char} (hu : unsafeChars.toList.any isKeyChar = false)
    (h : IsKey cs) : escape unsafeChars cs = String.ofList cs := by
  rw [escape]
  congr 1
  induction cs with
  | nil => rfl
  | cons c rest ih =>
    obtain ⟨hc, hrest⟩ := List.forall_mem_cons.mp h
    obtain ⟨hlow, hhigh⟩ := UploadPath.isKeyChar_range hc
    have hsafe : ¬ (c.toNat < 0x20 ∨ 0x7e < c.toNat ∨ unsafeChars.toList.contains c = true) := by
      rintro (hsmall | hlarge | hmem)
      · omega
      · omega
      · exact (List.any_eq_false.mp hu c (List.contains_iff_mem.mp hmem)) hc
    rw [List.flatMap_cons, ih hrest, if_neg hsafe]
    rfl

end Text.Percent

namespace Http.Url

lemma undot_eq {cs : List Char} (h : '%' ∉ cs) : undot cs = cs := by
  induction cs with
  | nil => rfl
  | cons c rest ih =>
    rw [undot]
    · rw [ih fun hmem => h (List.mem_cons_of_mem _ hmem)]
    · rintro d rest' rfl rfl
      exact h List.mem_cons_self

lemma resolve_eq {above segments : List (List Char)} (h : ∀ s ∈ segments, '%' ∉ s) (hup : ['.', '.'] ∉ segments) :
    resolve false above segments = above.reverse ++ undotted segments := by
  induction segments generalizing above with
  | nil => simp [resolve, undotted]
  | cons first rest ih =>
    obtain ⟨hfirst, hrest⟩ := List.forall_mem_cons.mp h
    have hne : ¬ first = ['.', '.'] := fun he => hup (he ▸ List.mem_cons_self)
    have hih := fun above => @ih above hrest fun hmem => hup (List.mem_cons_of_mem _ hmem)
    simp only [resolve, isDoubleDot, isDot, undot_eq hfirst, hne, hih, undotted]
    by_cases hdot : first = ['.']
    · cases rest <;> simp [hdot]
    · simp [hdot]

lemma exists_resolve_append (isFile : Bool) (front above : List (List Char)) :
    ∃ above', ∀ rest ≠ [], resolve isFile above (front ++ rest) = resolve isFile above' rest := by
  induction front generalizing above with
  | nil => exact ⟨above, fun _ _ => rfl⟩
  | cons segment front ih =>
    have hlast : ∀ rest ≠ [], (front ++ rest).isEmpty = false := by
      intro rest hrest
      simp [hrest]
    simp only [List.cons_append, resolve]
    split
    · obtain ⟨above', h⟩ := ih (parent above)
      exact ⟨above', fun rest hrest => by simp [hlast rest hrest, h rest hrest]⟩
    · split
      · obtain ⟨above', h⟩ := ih above
        exact ⟨above', fun rest hrest => by simp [hlast rest hrest, h rest hrest]⟩
      · exact ih _

lemma pathOf_append (front rest : List (List Char)) : pathOf (front ++ rest) = pathOf front ++ pathOf rest := by
  rw [pathOf, pathOf, pathOf, List.map_append, String.join_append]

lemma toList_pathOf {segments : List (List Char)} (h : ∀ s ∈ segments, IsKey s) :
    (pathOf segments).toList = segments.flatMap ('/' :: ·) := by
  induction segments with
  | nil => rfl
  | cons first rest ih =>
    obtain ⟨hfirst, hrest⟩ := List.forall_mem_cons.mp h
    have hcons : pathOf (first :: rest) = pathOf [first] ++ pathOf rest := pathOf_append [first] rest
    have hone : pathOf [first] = "/" ++ String.ofList first := by
      rw [pathOf, List.map_singleton, encodeSegment, Text.Percent.escape_of_isKey (by decide) hfirst]
      simp [String.join]
    rw [hcons, hone, String.toList_append, ih hrest, List.flatMap_cons]
    simp

lemma pathOf_inj {xs ys : List (List Char)} (hx : ∀ s ∈ xs, IsKey s ∧ '/' ∉ s) (hy : ∀ s ∈ ys, IsKey s ∧ '/' ∉ s) :
    pathOf xs = pathOf ys ↔ xs = ys := by
  refine ⟨fun h => ?_, congrArg _⟩
  have hjoin : ∀ {zs : List (List Char)}, (∀ s ∈ zs, IsKey s ∧ '/' ∉ s) →
      (pathOf zs).toList.splitOn '/' = [] :: zs := by
    intro zs hz
    have hpieces : ∀ s ∈ [] :: zs, '/' ∉ s := List.forall_mem_cons.mpr ⟨List.not_mem_nil, fun s hs => (hz s hs).2⟩
    rw [toList_pathOf fun s hs => (hz s hs).1]
    have hwhole := List.splitOn_intercalate '/' hpieces (List.cons_ne_nil _ _)
    rwa [Text.intercalate_cons] at hwhole
  have hcons : [] :: xs = [] :: ys := by rw [← hjoin hx, ← hjoin hy, h]
  exact List.cons.inj hcons |>.2

lemma segments_eq {family : Family} {cs : List Char} (h : IsKey cs) : segments family cs = UploadPath.segments cs := by
  rw [segments, Text.splitBy_eq, UploadPath.segments, List.splitOn_eq_splitOnP]
  apply Text.splitOnP_congr
  intro c hc
  have hback : c ≠ '\\' := ne_of_isKeyChar (h c hc) (by decide)
  rw [isSlash, decide_eq_false hback, Bool.and_false, Bool.or_false]
  rfl

lemma takeWhile_append_of_mem {mark : Char} {front rest : List Char} (h : mark ∈ front) :
    (front ++ rest).takeWhile (· ≠ mark) = front.takeWhile (· ≠ mark) := by
  obtain ⟨before, after, rfl⟩ := List.append_of_mem h
  rw [List.append_assoc, List.cons_append, Text.takeWhile_append_cons (by simp), Text.takeWhile_append_cons (by simp)]

lemma takeWhile_eq_self {mark : Char} {cs : List Char} (h : mark ∉ cs) : cs.takeWhile (· ≠ mark) = cs :=
  List.takeWhile_eq_self_iff.mpr fun _ hc => decide_eq_true (ne_of_mem_of_not_mem hc h)

lemma after?_eq_none {mark : Char} {cs : List Char} (h : mark ∉ cs) : after? mark cs = none := by
  rw [after?, List.dropWhile_eq_nil_iff.mpr fun _ hc => decide_eq_true (ne_of_mem_of_not_mem hc h)]

lemma exists_after?_append {mark : Char} {front : List Char} (h : mark ∈ front) :
    ∃ back, ∀ rest, after? mark (front ++ rest) = some (back ++ rest) := by
  have hne : front.dropWhile (· ≠ mark) ≠ [] := fun he => by simpa using List.dropWhile_eq_nil_iff.mp he mark h
  obtain ⟨c, back, hback⟩ := List.exists_cons_of_ne_nil hne
  refine ⟨back, fun rest => ?_⟩
  rw [after?, List.dropWhile_append, hback]
  rfl

lemma ofRest?_eq (scheme : String) (cs : List Char) (query fragment : Option (List Char)) :
    ofRest? scheme cs query fragment = (ofRest? scheme cs none none).map fun u =>
      { u with query := query.map (encodeQuery (familyOf scheme)), fragment := fragment.map encodeFragment } := by
  simp only [ofRest?]
  cases familyOf scheme with
  | file => cases ofFile? cs <;> rfl
  | web port => cases ofWeb? (.web port) cs <;> rfl
  | other => cases ofOther? cs <;> rfl

lemma scheme_of_ofRest? {scheme : String} {cs : List Char} {query fragment : Option (List Char)} {u : Url}
    (h : ofRest? scheme cs query fragment = some u) : u.scheme = scheme := by
  simp only [ofRest?] at h
  split at h
  all_goals
    obtain ⟨_, -, hu⟩ := Option.bind_eq_some_iff.mp h
    cases hu
    rfl

lemma exists_port {u : Url} (h : u.isHttp = true) : ∃ port, familyOf u.scheme = .web port := by
  simp only [isHttp, Bool.or_eq_true, decide_eq_true_eq] at h
  rcases h with h | h
  · exact ⟨80, h ▸ by decide⟩
  · exact ⟨443, h ▸ by decide⟩

end Http.Url

structure Http.Stem where
  front : List Char
  first : Char
  back : List Char
  isKeyChar_first : isKeyChar first = true
  first_ne_slash : first ≠ '/'

namespace Http.Stem

open Url

variable (s : Stem) {path : List Char}

def extend (path : List Char) : List Char := s.front ++ '/' :: s.first :: (s.back ++ '/' :: path)

lemma extend_eq (path : List Char) : s.extend path = s.extend [] ++ path := by simp [extend]

lemma exists_ofWeb? (port : Nat) : ∃ (authority : Option Authority) (above : List (List Char)), ∀ path, ofWeb? (.web port) (s.extend path) =
    authority.map fun a => (a, pathOf (resolve false above (segments (.web port) path))) := by
  have hfirst : isSlash (.web port) s.first = false := by
    have hback : s.first ≠ '\\' := ne_of_isKeyChar s.isKeyChar_first (by decide)
    simp [isSlash, s.first_ne_slash, hback]
  have hslash : isSlash (.web port) '/' = true := rfl
  have hdrop : ∀ path, (s.extend path).dropWhile (isSlash (.web port)) =
      ((s.front ++ ['/']).dropWhile (isSlash (.web port)) ++ s.first :: s.back) ++ '/' :: path := by
    intro path
    have hstart : Text.Trim.start (isSlash (.web port)) (s.front ++ ['/'] ++ s.first :: (s.back ++ '/' :: path)) = _ :=
      Text.Trim.start_append hfirst
    simpa [extend, Text.Trim.start] using hstart
  generalize (s.front ++ ['/']).dropWhile (isSlash (.web port)) ++ s.first :: s.back = host at hdrop
  have hrest : ∀ path, (host ++ '/' :: path).dropWhile (!isSlash (.web port) ·) =
      host.dropWhile (!isSlash (.web port) ·) ++ '/' :: path := fun path =>
    Text.Trim.start_append (by simp [hslash])
  -- what stands between the host and the path decides what is above the path
  obtain ⟨front, hfront⟩ : ∃ front, ∀ path, segments (.web port) (host.dropWhile (!isSlash (.web port) ·) ++
      '/' :: path).tail = front ++ segments (.web port) path := by
    cases host.dropWhile (!isSlash (.web port) ·) with
    | nil => exact ⟨[], fun _ => rfl⟩
    | cons c rest =>
      refine ⟨segments (.web port) rest, fun path => ?_⟩
      simp only [segments, Text.splitBy_eq]
      exact List.splitOnP_append_cons rest path hslash
  obtain ⟨above, habove⟩ := exists_resolve_append false front []
  refine ⟨(authority? (.web port) (host.takeWhile (!isSlash (.web port) ·)) true).map (·.1), above, fun path => ?_⟩
  have hne : segments (.web port) path ≠ [] := Text.splitBy_ne_nil _ _
  simp only [ofWeb?]
  rw [hdrop, Text.takeWhile_append_cons (by simp [hslash]), hrest, hfront, habove _ hne]
  simp only [ne_eq, List.append_eq_nil_iff, reduceCtorEq, and_false, not_false_eq_true, decide_true]
  cases authority? (.web port) (host.takeWhile (!isSlash (.web port) ·)) true <;> rfl

lemma mem_extend {mark : Char} (h : isKeyChar mark = false) : mark ∈ s.extend [] ↔ mark ∈ s.front ∨ mark ∈ s.back := by
  have hslash : mark ≠ '/' := (ne_of_isKeyChar (c := '/') (by decide) h).symm
  have hfirst : mark ≠ s.first := (ne_of_isKeyChar s.isKeyChar_first h).symm
  simp [extend, hslash, hfirst]

def trimmed (p q : Char → Bool) : Stem where
  front := (s.front.dropWhile p).filter q
  first := s.first
  back := s.back.filter q
  isKeyChar_first := s.isKeyChar_first
  first_ne_slash := s.first_ne_slash

lemma extend_trimmed {p q : Char → Bool} (hp : ∀ c, isKeyChar c = true → p c = false)
    (hq : ∀ c, isKeyChar c = true → q c = true) (hpath : IsKey path) (hne : path ≠ []) :
    (Text.Trim.both p (s.extend path)).filter q = (s.trimmed p q).extend path := by
  have hslash : isKeyChar '/' = true := by decide
  have hboth : Text.Trim.both p (s.extend path) = s.front.dropWhile p ++ '/' :: s.first :: (s.back ++ '/' :: path) := by
    rw [Text.Trim.both, extend, Text.Trim.start_append (hp _ hslash), Text.Trim.start]
    obtain ⟨front, last, rfl⟩ := (List.eq_nil_or_concat' path).resolve_left hne
    have hstop : Text.Trim.stop p (s.front.dropWhile p ++ '/' :: s.first :: (s.back ++ '/' :: front) ++ [last]) = _ :=
      Text.Trim.stop_append_singleton (hp _ (hpath last (by simp)))
    simpa using hstop
  have hkept : path.filter q = path := List.filter_eq_self.mpr fun c hc => hq c (hpath c hc)
  rw [hboth, List.filter_append, List.filter_cons_of_pos (hq _ hslash),
    List.filter_cons_of_pos (hq _ s.isKeyChar_first), List.filter_append, List.filter_cons_of_pos (hq _ hslash), hkept]
  rfl

def clean : Stem := s.trimmed (fun c => c.toNat ≤ 0x20) fun c => c ≠ '\t' && c ≠ '\n' && c ≠ '\r'

lemma mem_clean {mark : Char} (h : mark ∈ ['#', '?']) : mark ∈ s.clean.extend [] ↔ mark ∈ s.extend [] := by
  have hmark : isKeyChar mark = false ∧ decide (mark.toNat ≤ 0x20) = false ∧
      (mark ≠ '\t' && mark ≠ '\n' && mark ≠ '\r') = true := by
    simp only [List.mem_cons, List.not_mem_nil, or_false] at h
    rcases h with rfl | rfl <;> decide
  obtain ⟨hkey, hblank, hkept⟩ := hmark
  rw [mem_extend _ hkey, mem_extend _ hkey, clean, trimmed, List.mem_filter, List.mem_filter,
    Text.Trim.mem_dropWhile hblank]
  simp only [hkept, and_true]

def readRest (scheme : String) (rest : List Char) : Option Url :=
  ofRest? scheme ((rest.takeWhile (· ≠ '#')).takeWhile (· ≠ '?')) (after? '?' (rest.takeWhile (· ≠ '#')))
    (after? '#' rest)

lemma read?_extend (hpath : IsKey path) (hne : path ≠ []) : read? (String.ofList (s.extend path)) = (do
    guard ((s.clean.front.takeWhile isSchemeChar).head?.any Char.isAlpha)
    match s.clean.front.dropWhile isSchemeChar ++ '/' :: s.clean.first :: (s.clean.back ++ '/' :: path) with
    | ':' :: rest => readRest (Text.lower (String.ofList (s.clean.front.takeWhile isSchemeChar))) rest
    | _ => none) := by
  have hclean : (Text.Trim.both (fun c => c.toNat ≤ 0x20) (s.extend path)).filter
      (fun c => c ≠ '\t' && c ≠ '\n' && c ≠ '\r') = s.clean.extend path := by
    refine s.extend_trimmed (fun c hc => ?_) (fun c hc => ?_) hpath hne
    · exact decide_eq_false (Nat.not_le.mpr (UploadPath.isKeyChar_range hc).1)
    · have htab : c ≠ '\t' := ne_of_isKeyChar hc (by decide)
      have hline : c ≠ '\n' := ne_of_isKeyChar hc (by decide)
      have hreturn : c ≠ '\r' := ne_of_isKeyChar hc (by decide)
      simp [htab, hline, hreturn]
  have hname : (s.clean.extend path).takeWhile isSchemeChar = s.clean.front.takeWhile isSchemeChar :=
    Text.takeWhile_append_cons (by decide)
  have hrest : (s.clean.extend path).dropWhile isSchemeChar =
      s.clean.front.dropWhile isSchemeChar ++ '/' :: s.clean.first :: (s.clean.back ++ '/' :: path) :=
    Text.Trim.start_append (by decide)
  simp only [read?, String.toList_ofList]
  rw [hclean, hname, hrest]
  rfl

lemma read?_cases : (∀ path, IsKey path → path ≠ [] → read? (String.ofList (s.extend path)) = none) ∨
    ∃ (scheme : String) (s' : Stem), (∀ mark ∈ ['#', '?'], mark ∈ s'.extend [] ↔ mark ∈ s.extend []) ∧
      ∀ path, IsKey path → path ≠ [] → read? (String.ofList (s.extend path)) = readRest scheme (s'.extend path) := by
  by_cases halpha : (s.clean.front.takeWhile isSchemeChar).head?.any Char.isAlpha = true
  · cases hfront : s.clean.front.dropWhile isSchemeChar with
    | nil =>
      left
      intro path hpath hne
      rw [read?_extend s hpath hne, hfront, halpha]
      rfl
    | cons c front =>
      by_cases hc : c = ':'
      · subst c
        refine .inr ⟨Text.lower (String.ofList (s.clean.front.takeWhile isSchemeChar)),
          { s.clean with front }, fun mark hmark => ?_, fun path hpath hne => ?_⟩
        · have hfacts : isKeyChar mark = false ∧ isSchemeChar mark = false ∧ mark ≠ ':' := by
            simp only [List.mem_cons, List.not_mem_nil, or_false] at hmark
            rcases hmark with rfl | rfl <;> decide
          obtain ⟨hkey, hscheme, hcolon⟩ := hfacts
          rw [← s.mem_clean hmark, mem_extend _ hkey, mem_extend _ hkey, ← Text.Trim.mem_dropWhile (l := s.clean.front) hscheme,
            hfront, List.mem_cons, or_iff_right hcolon]
        · rw [read?_extend s hpath hne, hfront, halpha, guard, if_pos rfl, pure_bind]
          rfl
      · left
        intro path hpath hne
        rw [read?_extend s hpath hne, hfront, halpha]
        simp [hc]
  · left
    intro path hpath hne
    rw [read?_extend s hpath hne, eq_false_of_ne_true halpha]
    rfl

variable (scheme : String)

lemma exists_target_of_fragment (h : '#' ∈ s.extend []) :
    ∃ t, ∀ path u, readRest scheme (s.extend path) = some u → u.target = t := by
  let front := (s.extend []).takeWhile (· ≠ '#')
  refine ⟨((ofRest? scheme (front.takeWhile (· ≠ '?')) (after? '?' front) none).map target).getD "", fun path u hu => ?_⟩
  rw [readRest, extend_eq, takeWhile_append_of_mem h, ofRest?_eq] at hu
  obtain ⟨place, hplace, rfl⟩ := Option.map_eq_some_iff.mp hu
  rw [ofRest?_eq, hplace]
  rfl

lemma exists_target_of_query (h : '#' ∉ s.extend []) (hquery : '?' ∈ s.extend []) :
    ∃ t, ∀ path u, IsKey path → readRest scheme (s.extend path) = some u → u.target = t ++ String.ofList path := by
  obtain ⟨back, hback⟩ := exists_after?_append hquery
  let place := ofRest? scheme ((s.extend []).takeWhile (· ≠ '?')) none none
  refine ⟨(place.map (·.path)).getD "" ++ ("?" ++ encodeQuery (familyOf scheme) back), fun path u hpath hu => ?_⟩
  have hhash : '#' ∉ s.extend [] ++ path := by simp [h, hpath.not_mem (d := '#') (by decide)]
  rw [readRest, extend_eq, takeWhile_eq_self hhash, takeWhile_append_of_mem hquery, hback, ofRest?_eq] at hu
  obtain ⟨base, hbase, rfl⟩ := Option.map_eq_some_iff.mp hu
  have hplain : encodeQuery (familyOf scheme) path = String.ofList path := by
    rw [encodeQuery]
    split <;> exact Text.Percent.escape_of_isKey (by decide) hpath
  have hencode : encodeQuery (familyOf scheme) (back ++ path) = encodeQuery (familyOf scheme) back ++ String.ofList path := by
    rw [← hplain]
    exact Text.Percent.escape_append _ _ _
  simp only [target, place, hbase, Option.map_some, Option.getD_some, hencode, String.append_assoc]

lemma exists_target_of_path (h : '#' ∉ s.extend []) (hquery : '?' ∉ s.extend []) :
    ∃ t, ∀ path u, UploadPath.Plain path → readRest scheme (s.extend path) = some u → u.isHttp = true →
      u.target = t ++ pathOf (undotted (UploadPath.segments path)) := by
  by_cases hweb : ∃ port, familyOf scheme = .web port
  · obtain ⟨port, hport⟩ := hweb
    obtain ⟨authority, above, habove⟩ := s.exists_ofWeb? port
    refine ⟨pathOf above.reverse, fun path u hpath hu _ => ?_⟩
    have hhash : '#' ∉ s.extend path := by
      rw [extend_eq]
      simp [h, hpath.isKey.not_mem (d := '#') (by decide)]
    have hmark : '?' ∉ s.extend path := by
      rw [extend_eq]
      simp [hquery, hpath.isKey.not_mem (d := '?') (by decide)]
    have hpercent : ∀ segment ∈ UploadPath.segments path, '%' ∉ segment := fun segment hsegment =>
      (UploadPath.of_mem_segments hpath.isKey hsegment).1.not_mem (by decide)
    rw [readRest, takeWhile_eq_self hhash, takeWhile_eq_self hmark, after?_eq_none hhash, after?_eq_none hmark,
      ofRest?, hport] at hu
    simp only [habove, segments_eq hpath.isKey, resolve_eq hpercent hpath.not_up, pathOf_append] at hu
    cases authority with
    | none => cases hu
    | some a =>
      cases hu
      simp [target]
  · refine ⟨"", fun path u _ hu hhttp => absurd (exists_port hhttp) ?_⟩
    rwa [scheme_of_ofRest? hu]

variable {scheme}

theorem target_eq_iff {path' : List Char} {u v : Url} (h : UploadPath.Plain path) (h' : UploadPath.Plain path')
    (hne : path ≠ path') (hu : read? (String.ofList (s.extend path)) = some u) (hv : read? (String.ofList (s.extend path')) = some v)
    (huhttp : u.isHttp = true) (hvhttp : v.isHttp = true) : u.target = v.target ↔
      '#' ∈ s.extend [] ∨ '?' ∉ s.extend [] ∧ undotted (UploadPath.segments path) = undotted (UploadPath.segments path') := by
  rcases s.read?_cases with hnone | ⟨scheme, s', hmarks, hread⟩
  · rw [hnone path h.isKey h.ne_nil] at hu
    cases hu
  rw [hread path h.isKey h.ne_nil] at hu
  rw [hread path' h'.isKey h'.ne_nil] at hv
  rw [← hmarks '#' (by decide), ← hmarks '?' (by decide)]
  by_cases hhash : '#' ∈ s'.extend []
  · obtain ⟨t, ht⟩ := s'.exists_target_of_fragment scheme hhash
    simp [ht _ _ hu, ht _ _ hv, hhash]
  by_cases hquery : '?' ∈ s'.extend []
  · obtain ⟨t, ht⟩ := s'.exists_target_of_query scheme hhash hquery
    rw [ht _ _ h.isKey hu, ht _ _ h'.isKey hv]
    simp [hhash, hquery, String.ext_iff, hne]
  · obtain ⟨t, ht⟩ := s'.exists_target_of_path scheme hhash hquery
    have hinj : pathOf (undotted (UploadPath.segments path)) = pathOf (undotted (UploadPath.segments path')) ↔ _ :=
      pathOf_inj (fun _ => UploadPath.of_mem_undotted h.isKey) fun _ => UploadPath.of_mem_undotted h'.isKey
    rw [ht _ _ h hu huhttp, ht _ _ h' hv hvhttp, ← hinj]
    simp [hhash, hquery, String.ext_iff]

end Http.Stem

end ResumableUpload
