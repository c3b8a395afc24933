import ResumableUpload.Http.Exchange
import ResumableUpload.Http.Multipart
import ResumableUpload.Proofs.Bytes
import ResumableUpload.Proofs.Text.Decimal

/-! Form data that is written field by field is read back as it was written. -/

namespace ResumableUpload

lemma Bytes.toList_eq_octets (b : Bytes) : b.toList = octets b := by
  have hloop : ∀ n i r, b.size - i = n → ByteArray.toList.loop b i r = r.reverse ++ (octets b).drop i := by
    intro n
    induction n with
    | zero =>
      intro i r hn
      have hend : (octets b).drop i = [] := List.drop_eq_nil_of_le (by rw [length_octets]; omega)
      rw [ByteArray.toList.loop, if_neg (by omega), hend, List.append_nil]
    | succ n ih =>
      intro i r hn
      have hi : i < b.size := by omega
      have hget : b.get! i = b[i] := getElem!_pos b.data i hi
      rw [ByteArray.toList.loop, if_pos hi, ih _ _ (by omega), hget, drop_octets hi]
      simp
  exact hloop _ 0 [] rfl

namespace Http

namespace FormField

def received (f : FormField) : FormPart := ⟨f.name, .utf8, some f.content⟩

lemma alphanum_facts {c : Char} (h : c.isAlphanum = true) : String.utf8EncodeChar c = [c.toUInt8] ∧
    c.toUInt8 ≠ 0x22 ∧ c.toUInt8 ≠ 0x5c ∧ escape c = [c] ∧ FormData.isValueByte c.toUInt8 = true := by
  have hall : ∀ n < 128, (Char.ofNat n).isAlphanum = true →
      String.utf8EncodeChar (Char.ofNat n) = [(Char.ofNat n).toUInt8] ∧ (Char.ofNat n).toUInt8 ≠ 0x22 ∧
        (Char.ofNat n).toUInt8 ≠ 0x5c ∧ escape (Char.ofNat n) = [Char.ofNat n] ∧
          FormData.isValueByte (Char.ofNat n).toUInt8 = true := by decide
  have hlt : c.toNat < 128 := by
    have hle : ∀ {q : Char}, q.toNat < 128 → c.val ≤ q.val → c.toNat < 128 := fun hq hc => Nat.lt_of_le_of_lt hc hq
    rcases Bool.or_eq_true_iff.mp h with hletter | hdigit
    · rcases Bool.or_eq_true_iff.mp hletter with hupper | hlower
      · exact hle (q := 'Z') (by decide) (of_decide_eq_true hupper).2
      · exact hle (q := 'z') (by decide) (of_decide_eq_true (Bool.and_eq_true_iff.mp hlower).2)
    · exact hle (q := '9') (by decide) (of_decide_eq_true (Bool.and_eq_true_iff.mp hdigit).2)
  rw [← Char.ofNat_toNat c]
  exact hall _ hlt (by rwa [Char.ofNat_toNat])

def value (f : FormField) : List UInt8 := Text.Utf8.encode f.disposition

lemma encode_append (s t : String) : Text.Utf8.encode (s ++ t) = Text.Utf8.encode s ++ Text.Utf8.encode t := by
  simp [Text.Utf8.encode]

lemma exists_quote (s : String) : ∃ before, Text.Utf8.encode (quote s) = before ++ [0x22] := by
  refine ⟨(('"' :: s.toList.flatMap escape).flatMap String.utf8EncodeChar), ?_⟩
  rw [Text.Utf8.encode, quote, String.toList_ofList, List.flatMap_append]
  rfl

lemma encode_quote {s : String} (h : ∀ c ∈ s.toList, c.isAlphanum = true) :
    Text.Utf8.encode (quote s) = 0x22 :: Text.Utf8.encode s ++ [0x22] := by
  have hescape : s.toList.flatMap escape = s.toList := by
    rw [List.flatMap_congr fun c hc => (alphanum_facts (h c hc)).2.2.2.1]
    simp
  rw [Text.Utf8.encode, quote, String.toList_ofList, hescape, List.flatMap_append, List.flatMap_cons]
  rfl

lemma value_eq (f : FormField) : f.value = Text.Utf8.encode "form-data; name=" ++ Text.Utf8.encode (quote f.name) ++
    Text.Utf8.encode ((f.fileName.map fun s => "; filename=" ++ quote s).getD "") := by
  have hdisposition : f.disposition =
      "form-data; name=" ++ quote f.name ++ (f.fileName.map fun s => "; filename=" ++ quote s).getD "" := rfl
  rw [value, hdisposition, encode_append, encode_append]

lemma isValueByte_quote {s : String} (h : ∀ c ∈ s.toList, c.isAlphanum = true) :
    ∀ b ∈ Text.Utf8.encode (quote s), FormData.isValueByte b = true := by
  intro b hb
  rw [encode_quote h, List.mem_append, List.mem_cons, List.mem_singleton] at hb
  rcases hb with (rfl | hb) | rfl
  · decide
  · obtain ⟨c, hc, hb⟩ := List.mem_flatMap.mp hb
    obtain ⟨hencode, -, -, -, hvalue⟩ := alphanum_facts (h c hc)
    rw [hencode, List.mem_singleton] at hb
    exact hb ▸ hvalue
  · decide

lemma isValueByte_value {f : FormField} (hn : ∀ c ∈ f.name.toList, c.isAlphanum = true)
    (hs : ∀ s ∈ f.fileName, ∀ c ∈ s.toList, c.isAlphanum = true) : ∀ b ∈ f.value, FormData.isValueByte b = true := by
  have hfirst : (Text.Utf8.encode "form-data; name=").all FormData.isValueByte = true := by decide +kernel
  have hsecond : (Text.Utf8.encode "; filename=").all FormData.isValueByte = true := by decide +kernel
  rw [value_eq, List.forall_mem_append, List.forall_mem_append]
  refine ⟨⟨List.all_eq_true.mp hfirst, isValueByte_quote hn⟩, ?_⟩
  cases hfile : f.fileName with
  | none => nofun
  | some s =>
    rw [Option.map_some, Option.getD_some, encode_append, List.forall_mem_append]
    exact ⟨List.all_eq_true.mp hsecond, isValueByte_quote (hs s hfile)⟩

lemma exists_value {f : FormField} (h : ∀ c ∈ f.name.toList, c.isAlphanum = true) : ∃ after,
    f.value = Text.Utf8.encode "form-data; name=" ++ 0x22 :: Text.Utf8.encode f.name ++ 0x22 :: after := by
  refine ⟨Text.Utf8.encode ((f.fileName.map fun s => "; filename=" ++ quote s).getD ""), ?_⟩
  rw [value_eq, encode_quote h]
  simp

lemma getLast?_value (f : FormField) : f.value.getLast? = some 0x22 := by
  rw [value_eq]
  cases f.fileName with
  | none =>
    obtain ⟨before, hq⟩ := exists_quote f.name
    have hempty : Text.Utf8.encode "" = [] := rfl
    simp [hq, hempty]
  | some s =>
    obtain ⟨before, hq⟩ := exists_quote s
    simp [hq, encode_append]

end FormField

namespace FormData

lemma quotedValue?_append {name after : List UInt8} (h : ∀ b ∈ name, b ≠ 0x22 ∧ b ≠ 0x5c) :
    quotedValue? (name ++ 0x22 :: after) = some name := by
  induction name with
  | nil => rfl
  | cons b name ih =>
    obtain ⟨hquote, hslash⟩ := h b List.mem_cons_self
    rw [List.cons_append, quotedValue?, ih fun c hc => h c (List.mem_cons_of_mem _ hc)]
    · rfl
    · rintro rest ⟨⟩
      exact absurd rfl hslash
    · exact hquote

lemma nameAttribute?_value {name after : List UInt8} (h : ∀ b ∈ name, b ≠ 0x22 ∧ b ≠ 0x5c) :
    nameAttribute? true (Text.Utf8.encode "form-data; name=" ++ 0x22 :: name ++ 0x22 :: after) = some name := by
  have hattribute : nameAttribute? true (Text.Utf8.encode "form-data; name=" ++ 0x22 :: name ++ 0x22 :: after) =
      quotedValue? (name ++ 0x22 :: after) := rfl
  rw [hattribute, quotedValue?_append h]

lemma dropWhile_eq_self {p : UInt8 → Bool} {l : List UInt8} (h : ∀ b ∈ l.head?, p b = false) : l.dropWhile p = l := by
  cases l with
  | nil => rfl
  | cons b l => exact List.dropWhile_cons_of_neg (by simp [h b rfl])

lemma headers?_line {n : Nat} {name value rest : List UInt8} (hne : name ≠ [])
    (hname : ∀ b ∈ name, isNameByte b = true) (hvalue : ∀ b ∈ value, isValueByte b = true)
    (hfirst : ∀ b ∈ value.head?, isBlankByte b = false) (hlast : ∀ b ∈ value.getLast?, isBlankByte b = false) :
    headers? (n + 1) (name ++ 0x3a :: 0x20 :: (value ++ 0x0d :: 0x0a :: rest)) =
      (headers? n rest).map ((name, value) :: ·) := by
  have hcolon : isNameByte 0x3a = false := by decide +kernel
  have htakeName : (name ++ 0x3a :: 0x20 :: (value ++ 0x0d :: 0x0a :: rest)).takeWhile isNameByte = name := by
    rw [List.takeWhile_append_of_pos hname, List.takeWhile_cons_of_neg (by simp [hcolon]), List.append_nil]
  have hdropName : (name ++ 0x3a :: 0x20 :: (value ++ 0x0d :: 0x0a :: rest)).dropWhile isNameByte =
      0x3a :: 0x20 :: (value ++ 0x0d :: 0x0a :: rest) := by
    rw [List.dropWhile_append_of_pos hname, List.dropWhile_cons_of_neg (by simp [hcolon])]
  have hblank : (0x20 :: (value ++ 0x0d :: 0x0a :: rest)).dropWhile isBlankByte = value ++ 0x0d :: 0x0a :: rest := by
    rw [List.dropWhile_cons_of_pos (by decide)]
    apply dropWhile_eq_self
    intro b hb
    cases value with
    | nil =>
      obtain rfl : 0x0d = b := Option.some.inj hb
      decide
    | cons c value => exact hfirst b hb
  have htake : (value ++ 0x0d :: 0x0a :: rest).takeWhile isValueByte = value := by
    rw [List.takeWhile_append_of_pos hvalue, List.takeWhile_cons_of_neg (by decide), List.append_nil]
  have hdrop : (value ++ 0x0d :: 0x0a :: rest).dropWhile isValueByte = 0x0d :: 0x0a :: rest := by
    rw [List.dropWhile_append_of_pos hvalue, List.dropWhile_cons_of_neg (by decide)]
  have htrim : (value.reverse.dropWhile isBlankByte).reverse = value := by
    rw [dropWhile_eq_self (by simpa using hlast), List.reverse_reverse]
  obtain ⟨b, name, rfl⟩ := List.exists_cons_of_ne_nil hne
  have hb : isNameByte b = true := hname b List.mem_cons_self
  rw [List.cons_append] at htakeName hdropName ⊢
  rw [headers?]
  · simp only [htakeName, hdropName, hblank, htake, htrim, hdrop]
    simp
  · intro tail he
    exact absurd ((List.cons.inj he).1 ▸ hb) (by decide +kernel)
  · intro tail he
    exact absurd ((List.cons.inj he).1 ▸ hb) (by decide +kernel)

def label : List UInt8 := Text.Utf8.encode "Content-Disposition"

lemma fieldName_value {f : FormField} (h : ∀ c ∈ f.name.toList, c.isAlphanum = true) :
    fieldName [(label, f.value)] = f.name := by
  obtain ⟨after, hvalue⟩ := FormField.exists_value h
  have hbytes : ∀ b ∈ Text.Utf8.encode f.name, b ≠ 0x22 ∧ b ≠ 0x5c := by
    intro b hb
    obtain ⟨c, hc, hb⟩ := List.mem_flatMap.mp hb
    obtain ⟨hencode, hquote, hslash, -⟩ := FormField.alphanum_facts (h c hc)
    rw [hencode, List.mem_singleton] at hb
    exact hb ▸ ⟨hquote, hslash⟩
  have hfind : ∀ value, headerValue? [(label, value)] "content-disposition" = some value := fun _ => rfl
  rw [fieldName, hfind, Option.bind_some, hvalue, nameAttribute?_value hbytes, Option.bind_some,
    Text.Utf8.decode?_encode]
  rfl

lemma fieldCharset_value {value : List UInt8} : fieldCharset [(label, value)] = .utf8 := rfl

def header (f : FormField) : List UInt8 := label ++ 0x3a :: 0x20 :: f.value

def following (delimiter : Bytes) : List FormField → List UInt8
  | [] => [0x2d, 0x2d, 0x0d, 0x0a]
  | f :: fields =>
    lineEnd.octets ++ (header f ++ (blankLine.octets ++ (f.content.octets ++
      ((lineEnd ++ delimiter).octets ++ following delimiter fields))))

def delimiter (boundary : String) : Bytes := ("--" ++ boundary).toUTF8

def write (boundary : String) (fields : List FormField) : Bytes :=
  .ofList ((delimiter boundary).octets ++ following (delimiter boundary) fields)

end FormData

structure FormField.Clear (delimiter : Bytes) (f : FormField) : Prop where
  name : ∀ c ∈ f.name.toList, c.isAlphanum = true
  value : ∀ b ∈ f.value, FormData.isValueByte b = true
  content : (f.content ++ (FormData.lineEnd ++ delimiter)).findFrom (FormData.lineEnd ++ delimiter) 0 =
    some f.content.size

def FormField.isPlain (f : FormField) : Bool :=
  f.name.toList.all Char.isAlphanum && (f.fileName.all fun s => s.toList.all Char.isAlphanum) &&
    !f.content.octets.contains 0x0d

lemma FormField.Clear.of_isPlain {delimiter : Bytes} {f : FormField} (h : f.isPlain = true) : f.Clear delimiter := by
  rw [isPlain, Bool.and_eq_true, Bool.and_eq_true, List.all_eq_true, Option.all_eq_true, Bool.not_eq_true'] at h
  obtain ⟨⟨hname, hfile⟩, hcontent⟩ := h
  refine ⟨hname, isValueByte_value hname fun s hs => List.all_eq_true.mp (hfile s hs), ?_⟩
  have hno : 0x0d ∉ f.content.octets := by simpa using hcontent
  have hall : (f.content ++ (FormData.lineEnd ++ delimiter)).octets.drop 0 =
      f.content.octets ++ ((FormData.lineEnd ++ delimiter).octets ++ []) := by
    rw [List.drop_zero, List.append_nil, Bytes.octets_append]
  have hfind := Bytes.findFrom_of_absent (Bytes.octets_append _ _) hall hno
  rwa [Nat.zero_add, Bytes.length_octets] at hfind

namespace FormData

variable {body delimiter : Bytes} {i : Nat} {f : FormField}

lemma headers?_header (h : f.Clear delimiter) :
    headers? 32 (header f ++ blankLine.octets) = some [(label, f.value)] := by
  have hline : header f ++ blankLine.octets = label ++ 0x3a :: 0x20 :: (f.value ++ 0x0d :: 0x0a :: [0x0d, 0x0a]) := by
    rw [header, List.append_assoc]
    rfl
  rw [hline]
  have hname : label.all isNameByte = true := by decide +kernel
  refine (headers?_line (by decide) (List.all_eq_true.mp hname) h.value ?_ ?_).trans rfl
  · obtain ⟨after, hvalue⟩ := FormField.exists_value h.name
    rw [hvalue]
    intro b hb
    obtain rfl : 0x66 = b := Option.some.inj hb
    decide
  · rw [FormField.getLast?_value]
    intro b hb
    obtain rfl : 0x22 = b := Option.some.inj hb
    decide

lemma skipBlanks_of_drop {b : UInt8} {rest : List UInt8} (h : body.octets.drop i = b :: rest)
    (hb : isBlankByte b = false) : skipBlanks body i = i := by
  have hi : i < body.size := by
    by_contra hge
    rw [List.drop_eq_nil_of_le (by rw [Bytes.length_octets]; omega)] at h
    cases h
  have hget : body[i] = b := by
    rw [Bytes.drop_octets hi] at h
    exact (List.cons.inj h).1
  rw [skipBlanks, dif_pos hi, hget, if_neg (Bool.eq_false_iff.mp hb)]

lemma findFrom_header (h : f.Clear delimiter) {rest : List UInt8}
    (hi : body.octets.drop i = header f ++ (blankLine.octets ++ rest)) :
    body.findFrom blankLine i = some (i + (header f).length) := by
  have hlabel : 0x0d ∉ label ++ [0x3a, 0x20] := by decide +kernel
  have hvalue : 0x0d ∉ f.value := fun hmem => absurd (h.value _ hmem) (by decide)
  apply Bytes.findFrom_of_absent rfl hi
  rw [header, List.append_cons, List.append_cons, List.append_assoc label, List.mem_append]
  exact not_or.mpr ⟨hlabel, hvalue⟩

lemma findFrom_content (h : f.Clear delimiter) {rest : List UInt8}
    (hi : body.octets.drop i = f.content.octets ++ ((lineEnd ++ delimiter).octets ++ rest)) :
    body.findFrom (lineEnd ++ delimiter) i = some (i + f.content.size) := by
  rw [← Bytes.length_octets f.content]
  apply Bytes.findFrom_of_first hi
  intro t ht hp
  rw [Bytes.length_octets] at ht
  have hno := Bytes.not_hasAt_of_findFrom h.content (Nat.zero_le t) ht
  rw [Bool.eq_false_iff, Ne, Bytes.hasAt_iff, Bytes.octets_append] at hno
  exact hno hp

lemma drop_behind {l front rest : List UInt8} (h : l.drop i = front ++ rest) : l.drop (i + front.length) = rest := by
  rw [← List.drop_drop, h, List.drop_left]

lemma partsFrom_field (h : f.Clear delimiter) {found : List FormPart} {fuel : Nat} {rest : List UInt8}
    (hi : body.octets.drop i = delimiter.octets ++ (lineEnd.octets ++ (header f ++ (blankLine.octets ++
      (f.content.octets ++ ((lineEnd ++ delimiter).octets ++ rest)))))) :
    ∃ next, body.octets.drop next = delimiter.octets ++ rest ∧
      partsFrom body delimiter found (fuel + 1) i = partsFrom body delimiter (f.received :: found) fuel next := by
  have hafter := drop_behind hi
  rw [Bytes.length_octets] at hafter
  have hopen : body.hasAt "--".toUTF8 (i + delimiter.size) = false := by
    rw [Bool.eq_false_iff, Ne, Bytes.hasAt_iff, hafter]
    exact fun hp => absurd (List.cons_prefix_cons.mp hp).1 (by decide)
  have hblank : skipBlanks body (i + delimiter.size) = i + delimiter.size := skipBlanks_of_drop hafter (by decide)
  have hline : body.hasAt lineEnd (i + delimiter.size) = true := by
    rw [Bytes.hasAt_iff, hafter]
    exact List.prefix_append _ _
  have hstart : body.octets.drop (i + delimiter.size + 2) = _ := drop_behind hafter
  have hstop := findFrom_header h hstart
  have hheader : (body.extract (i + delimiter.size + 2) (i + delimiter.size + 2 + (header f).length + 4)).toList =
      header f ++ blankLine.octets := by
    rw [Bytes.toList_eq_octets, Bytes.octets_extract, hstart, ← List.append_assoc, Nat.add_assoc,
      Nat.add_sub_cancel_left]
    exact List.take_left' List.length_append
  have hbehind : body.octets.drop (i + delimiter.size + 2 + (header f).length + 4) = _ :=
    drop_behind (drop_behind hstart)
  have hnext := findFrom_content h hbehind
  generalize i + delimiter.size + 2 + (header f).length = stop at *
  have hcontent : body.extract (stop + 4) (stop + 4 + f.content.size) = f.content := by
    apply Bytes.octets_injective
    rw [Bytes.octets_extract, hbehind, Nat.add_sub_cancel_left]
    exact List.take_left' (Bytes.length_octets _)
  have hrest := drop_behind hbehind
  rw [Bytes.length_octets, Bytes.octets_append, List.append_assoc] at hrest
  refine ⟨stop + 4 + f.content.size + 2, drop_behind hrest, ?_⟩
  rw [partsFrom]
  simp only [hopen, Bool.false_eq_true, ↓reduceIte, hblank, hline, Bool.not_true, hstop, hheader, headers?_header h,
    hnext, hcontent]
  rw [fieldName_value h.name, fieldCharset_value, FormField.received]

lemma partsFrom_following {fields : List FormField} (hf : ∀ f ∈ fields, f.Clear delimiter) {found : List FormPart}
    {fuel : Nat} (hi : body.octets.drop i = delimiter.octets ++ following delimiter fields)
    (hfuel : fields.length < fuel) :
    partsFrom body delimiter found fuel i = ⟨found.reverse ++ fields.map FormField.received, true⟩ := by
  induction fields generalizing i found fuel with
  | nil =>
    obtain ⟨fuel, rfl⟩ := Nat.exists_eq_add_of_le' hfuel
    have hclose : body.hasAt "--".toUTF8 (i + delimiter.size) = true := by
      rw [Bytes.hasAt_iff, ← List.drop_drop, hi, List.drop_left' delimiter.length_octets]
      exact List.prefix_append [0x2d, 0x2d] _
    rw [List.length_nil, partsFrom, if_pos hclose, List.map_nil, List.append_nil]
  | cons f fields ih =>
    obtain ⟨fuel, rfl⟩ := Nat.exists_eq_add_of_le' (Nat.zero_lt_of_lt hfuel)
    obtain ⟨next, hnext, hpart⟩ := partsFrom_field (hf f List.mem_cons_self) hi
    rw [hpart, ih (fun g hg => hf g (List.mem_cons_of_mem _ hg)) hnext (Nat.lt_of_succ_lt_succ hfuel)]
    simp

lemma length_header (f : FormField) : (header f).length = 21 + f.disposition.toUTF8.size := by
  have hlabel : label.length = 19 := by decide +kernel
  have hvalue : f.value.length = f.disposition.toUTF8.size := by
    rw [FormField.value, Text.Utf8.encode, ← Text.Charset.octets_toUTF8, Bytes.length_octets]
  rw [header, List.length_append, List.length_cons, List.length_cons, hlabel, hvalue]
  omega

def fieldSize (boundary : String) (f : FormField) : Nat :=
  f.disposition.toUTF8.size + f.content.size + (FormData.delimiter boundary).size + 29

lemma size_write (boundary : String) (fields : List FormField) :
    (write boundary fields).size = (FormData.delimiter boundary).size + 4 + (fields.map (fieldSize boundary)).sum := by
  have hfollowing : ∀ fields : List FormField,
      (following (FormData.delimiter boundary) fields).length = 4 + (fields.map (fieldSize boundary)).sum := by
    intro fields
    induction fields with
    | nil => rfl
    | cons f fields ih =>
      have hline : lineEnd.size = 2 := rfl
      have hblank : blankLine.size = 4 := rfl
      simp only [following, List.length_append, Bytes.length_octets, ByteArray.size_append, List.map_cons,
        List.sum_cons, ih, hline, hblank, length_header, fieldSize]
      omega
  rw [← Bytes.length_octets, write, Bytes.octets_ofList, List.length_append, hfollowing, Bytes.length_octets]
  omega

theorem read_write {boundary : String} {fields : List FormField}
    (hf : ∀ f ∈ fields, f.Clear (FormData.delimiter boundary)) :
    read boundary (write boundary fields) = ⟨fields.map FormField.received, true⟩ := by
  have hdrop : (write boundary fields).octets.drop 0 =
      (FormData.delimiter boundary).octets ++ following (FormData.delimiter boundary) fields := rfl
  have hfirst : (write boundary fields).findFrom (FormData.delimiter boundary) 0 = some 0 := by
    apply Bytes.findFrom_eq (Nat.le_refl 0)
    · rw [Bytes.hasAt_iff, hdrop]
      exact List.prefix_append _ _
    · exact fun k _ hk => absurd hk (Nat.not_lt_zero k)
  have hlength : fields.length < (write boundary fields).size + 1 := by
    have hsum := List.length_le_sum_of_one_le (fields.map (fieldSize boundary)) ?_
    · rw [List.length_map] at hsum
      rw [size_write]
      omega
    intro n hn
    obtain ⟨f, -, rfl⟩ := List.mem_map.mp hn
    exact Nat.le_add_left 1 _
  rw [read, show ("--" ++ boundary).toUTF8 = FormData.delimiter boundary from rfl, hfirst]
  exact partsFrom_following hf hdrop hlength

end FormData

end Http

end ResumableUpload
