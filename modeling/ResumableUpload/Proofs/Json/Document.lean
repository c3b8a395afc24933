import ResumableUpload.Proofs.Json.Token

/-! A document is read back from its text, however deep it is. -/

namespace ResumableUpload.Json

open Reader

@[elab_as_elim]
theorem induct {P : Json → Prop} (null : P .null) (bool : ∀ b, P (.bool b)) (number : ∀ n, P (.number n))
    (string : ∀ s, P (.string s)) (array : ∀ items, (∀ j ∈ items, P j) → P (.array items))
    (object : ∀ members, (∀ m ∈ members, P m.2) → P (.object members)) (unreadable : P .unreadable) (j : Json) : P j :=
  @Json.rec P (fun items => ∀ j ∈ items, P j) (fun members => ∀ m ∈ members, P m.2) (fun m => P m.2) null bool number
    string array object unreadable nofun (fun _ _ hitem hrest => List.forall_mem_cons.mpr ⟨hitem, hrest⟩) nofun
    (fun _ _ hmember hrest => List.forall_mem_cons.mpr ⟨hmember, hrest⟩) (fun _ _ hvalue => hvalue) j

open Writer (value)
open Writer.value (moreItems moreMembers)

variable {cs rest : List Char}

lemma value_string (s : String) : value (.string s) = '"' :: (s.toList.flatMap Writer.escape ++ ['"']) := rfl

lemma value_array (item : Json) (items : List Json) :
    value (.array (item :: items)) = '[' :: (value item ++ moreItems items) := rfl

lemma value_object (name : String) (v : Json) (members : List (String × Json)) :
    value (.object ((name, v) :: members)) = '{' :: (Writer.text name ++ (':' :: value v ++ moreMembers members)) :=
  List.append_assoc ('{' :: Writer.text name) (':' :: value v) (moreMembers members)

lemma moreMembers_cons (name : String) (v : Json) (members : List (String × Json)) :
    moreMembers ((name, v) :: members) = ',' :: (Writer.text name ++ (':' :: value v ++ moreMembers members)) :=
  List.append_assoc (',' :: Writer.text name) (':' :: value v) (moreMembers members)

lemma skip_eq {c : Char} (h : isSpace c = false) : skip (c :: cs) = c :: cs := by rw [skip, List.dropWhile_cons, h]; rfl

lemma exists_cons (j : Json) : ∃ c cs, value j = c :: cs ∧ isSpace c = false ∧ c ≠ ']' := by
  cases j with
  | number n =>
    have hall : ('-' :: "0123456789".toList).all (fun c => decide (isSpace c = false ∧ c ≠ ']')) = true := by decide
    obtain ⟨c, cs, hn, hc⟩ := exists_number_cons n
    exact ⟨c, cs, hn, of_decide_eq_true (List.all_eq_true.mp hall c hc)⟩
  | null => exact ⟨'n', _, rfl, rfl, by decide⟩
  | bool b => cases b <;> exact ⟨_, _, rfl, rfl, by decide⟩
  | string s => exact ⟨'"', _, rfl, rfl, by decide⟩
  | array items => cases items <;> exact ⟨'[', _, rfl, rfl, by decide⟩
  | object members => cases members <;> exact ⟨'{', _, rfl, rfl, by decide⟩
  | unreadable => exact ⟨'"', _, rfl, rfl, by decide⟩

lemma length_pos (j : Json) : 0 < (value j).length := by
  obtain ⟨c, cs, hvalue, -⟩ := exists_cons j
  rw [hvalue]
  exact Nat.succ_pos _

lemma skip_value (j : Json) (rest : List Char) : skip (value j ++ rest) = value j ++ rest := by
  obtain ⟨c, cs, hvalue, hspace, -⟩ := exists_cons j
  rw [hvalue]
  exact skip_eq hspace

lemma value_append_ne (j : Json) (rest more : List Char) : value j ++ rest ≠ ']' :: more := by
  obtain ⟨c, cs, hvalue, -, hne⟩ := exists_cons j
  rw [hvalue]
  exact fun he => hne (List.cons.inj he).1

def ReadBack (j : Json) : Prop := ∀ fuel rest, 2 * (value j).length ≤ fuel + 1 → Stops rest →
  value? (fuel + 1) (value j ++ rest) = some (j, rest)

lemma stops_moreItems (items : List Json) (rest : List Char) : Stops (moreItems items ++ rest) := by
  cases items <;> rintro c ⟨⟩ <;> decide

lemma stops_moreMembers (members : List (String × Json)) (rest : List Char) : Stops (moreMembers members ++ rest) := by
  cases members <;> rintro c ⟨⟩ <;> decide

lemma items?_text {item : Json} {items : List Json} {fuel : Nat} (hitem : ReadBack item)
    (hitems : ∀ j ∈ items, ReadBack j) (rest : List Char)
    (hfuel : 2 * ((value item).length + (moreItems items).length) ≤ fuel + 1) :
    items? fuel (value item ++ (moreItems items ++ rest)) = some (item :: items, rest) := by
  induction items generalizing item fuel with
  | nil =>
    have hpos := length_pos item
    rw [moreItems, List.length_singleton] at hfuel
    obtain ⟨fuel, rfl⟩ := Nat.exists_eq_add_of_le' (m := 2) (n := fuel) (by omega)
    rw [items?, hitem fuel _ (by omega) (stops_moreItems [] rest)]
    rfl
  | cons next items ih =>
    have hpos := length_pos item
    rw [moreItems, List.length_append, List.length_cons] at hfuel
    obtain ⟨fuel, rfl⟩ := Nat.exists_eq_add_of_le' (m := 2) (n := fuel) (by omega)
    obtain ⟨hnext, hitems⟩ := List.forall_mem_cons.mp hitems
    rw [items?, hitem fuel _ (by omega) (stops_moreItems (next :: items) rest), moreItems, List.append_assoc,
      List.cons_append]
    change (items? (fuel + 1) (value next ++ (moreItems items ++ rest))).bind _ = _
    rw [ih hnext hitems (by omega)]
    rfl

lemma members?_name (name : String) (fuel : Nat) (rest : List Char) :
    members? (fuel + 1) (Writer.text name ++ ':' :: rest) = (value? fuel rest).bind fun (v, rest) =>
      match skip rest with
      | ',' :: rest => (members? fuel rest).bind fun (more, rest) =>
        some (more.bind fun more => some ((name, v) :: more), rest)
      | '}' :: rest => some (some [(name, v)], rest)
      | _ => none := by
  rw [members?, Writer.text, List.append_assoc, List.cons_append, skip_eq rfl, List.singleton_append]
  change (text? (name.toList.flatMap Writer.escape ++ '"' :: (':' :: rest))).bind _ = _
  rw [text?_text]
  rfl

lemma members?_text {name : String} {v : Json} {members : List (String × Json)} {fuel : Nat} (hv : ReadBack v)
    (hmembers : ∀ m ∈ members, ReadBack m.2) (rest : List Char)
    (hfuel : 2 * ((value v).length + (moreMembers members).length) ≤ fuel) :
    members? fuel (Writer.text name ++ (':' :: value v ++ (moreMembers members ++ rest))) =
      some (some ((name, v) :: members), rest) := by
  induction members generalizing name v fuel with
  | nil =>
    have hpos := length_pos v
    rw [moreMembers, List.length_singleton] at hfuel
    obtain ⟨fuel, rfl⟩ := Nat.exists_eq_add_of_le' (m := 2) (n := fuel) (by omega)
    rw [List.cons_append, members?_name, hv fuel _ (by omega) (stops_moreMembers [] rest)]
    rfl
  | cons next members ih =>
    have hpos := length_pos v
    obtain ⟨nextName, next⟩ := next
    rw [moreMembers_cons, List.length_cons, List.length_append, List.length_append, List.length_cons] at hfuel
    obtain ⟨fuel, rfl⟩ := Nat.exists_eq_add_of_le' (m := 2) (n := fuel) (by omega)
    obtain ⟨hnext : ReadBack next, hmembers⟩ := List.forall_mem_cons.mp hmembers
    rw [List.cons_append, members?_name, hv fuel _ (by omega) (stops_moreMembers _ rest), moreMembers_cons]
    change (members? (fuel + 1) (Writer.text nextName ++ (':' :: value next ++ moreMembers members) ++ rest)).bind _ = _
    rw [List.append_assoc, List.append_assoc, ih hnext hmembers (by omega)]
    rfl

lemma value?_number {c : Char} (hc : c ∈ '-' :: "0123456789".toList) (fuel : Nat) (cs : List Char) :
    value? (fuel + 1) (c :: cs) = (number? (c :: cs)).map fun (n, rest) => (.number n, rest) := by
  simp only [String.reduceToList, List.mem_cons, List.not_mem_nil, or_false] at hc
  rcases hc with rfl | rfl | rfl | rfl | rfl | rfl | rfl | rfl | rfl | rfl | rfl <;>
    (rw [value?]; rfl)

lemma value?_array {fuel : Nat} (h : ∀ rest, skip cs ≠ ']' :: rest) :
    value? (fuel + 1) ('[' :: cs) = (items? fuel (skip cs)).map fun (items, rest) => (.array items, rest) := by
  rw [value?, skip_eq rfl]
  simp only

lemma value?_object {fuel : Nat} (h : ∀ rest, skip cs ≠ '}' :: rest) :
    value? (fuel + 1) ('{' :: cs) = (members? fuel (skip cs)).map fun (members, rest) => (ofMembers members, rest) := by
  rw [value?, skip_eq rfl]
  simp only

lemma hexUnit?_surrogate : hexUnit? 'd' '8' '0' '0' = some 0xd800 := by decide

lemma text?_surrogate (rest : List Char) :
    text? ('\\' :: 'u' :: 'd' :: '8' :: '0' :: '0' :: '"' :: rest) = some (none, rest) := by
  rw [text?, pieces, hexUnit?_surrogate]
  rfl

lemma readBack_array {items : List Json} (h : ∀ j ∈ items, ReadBack j) : ReadBack (.array items) := by
  intro fuel rest hfuel _
  cases items with
  | nil =>
    rw [value?]
    rfl
  | cons item items =>
    obtain ⟨hitem, hitems⟩ := List.forall_mem_cons.mp h
    rw [value_array, List.length_cons, List.length_append] at hfuel
    rw [value_array, List.cons_append, List.append_assoc, value?_array, skip_value,
      items?_text hitem hitems rest (by omega)]
    · rfl
    · intro more
      rw [skip_value]
      exact value_append_ne item _ more

lemma readBack_object {members : List (String × Json)} (h : ∀ m ∈ members, ReadBack m.2) :
    ReadBack (.object members) := by
  intro fuel rest hfuel _
  cases members with
  | nil =>
    rw [value?]
    rfl
  | cons member members =>
    obtain ⟨name, v⟩ := member
    obtain ⟨hv : ReadBack v, hmembers⟩ := List.forall_mem_cons.mp h
    rw [value_object, List.length_cons, List.length_append, List.length_append, List.length_cons] at hfuel
    have hskip : skip (Writer.text name ++ (':' :: value v ++ (moreMembers members ++ rest))) =
        Writer.text name ++ (':' :: value v ++ (moreMembers members ++ rest)) := skip_eq rfl
    rw [value_object, List.cons_append, List.append_assoc, List.append_assoc, value?_object, hskip,
      members?_text hv hmembers rest (by omega)]
    · rfl
    · rw [hskip]
      rintro more ⟨⟩

lemma readBack (j : Json) : ReadBack j := by
  induction j using induct with
  | null =>
    intro fuel rest _ _
    rw [value?]
    rfl
  | bool b =>
    intro fuel rest _ _
    cases b with
    | true =>
      rw [value?]
      rfl
    | false =>
      rw [value?]
      rfl
  | number n =>
    intro fuel rest _ hr
    obtain ⟨c, cs, hn, hc⟩ := exists_number_cons n
    have hnumber := number?_number n hr
    rw [hn, List.cons_append] at hnumber
    change value? (fuel + 1) (Writer.number n ++ rest) = _
    rw [hn, List.cons_append, value?_number hc, hnumber]
    rfl
  | string s =>
    intro fuel rest _ _
    rw [value_string, value?, List.cons_append, skip_eq rfl, List.append_assoc]
    change (text? (s.toList.flatMap Writer.escape ++ '"' :: rest)).map _ = _
    rw [text?_text]
    rfl
  | array items ih => exact readBack_array ih
  | object members ih => exact readBack_object ih
  | unreadable =>
    intro fuel rest _ _
    rw [value?]
    change (text? ('\\' :: 'u' :: 'd' :: '8' :: '0' :: '0' :: '"' :: rest)).map _ = _
    rw [text?_surrogate]
    rfl

theorem read?_write (j : Json) : read? j.write = some j := by
  have hstops : Stops [] := by
    rintro c ⟨⟩
  have hread := readBack j (2 * (value j).length + 1) [] (by omega) hstops
  rw [List.append_nil] at hread
  rw [read?, write, String.toList_ofList]
  dsimp only [bind, Option.bind]
  rw [hread]
  rfl

end ResumableUpload.Json
