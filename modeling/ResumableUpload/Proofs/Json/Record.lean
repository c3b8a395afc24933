import ResumableUpload.Json.Record
import Mathlib.Data.List.Basic
import Mathlib.Tactic.Lemma

/-! Records are read from the members that bear their names, whatever other members there are. -/

namespace ResumableUpload.Json

variable {α : Type} {fields : List (String × (Json → Json))} {name : String} {f : Json → Json}

def knownMembers (fields : List (String × (Json → Json))) (members : List (String × Json)) : List (String × Json) :=
  members.filterMap fun m => (fields.find? (·.1 = m.1)).map fun field => (m.1, field.2 m.2)

def known (fields : List (String × (Json → Json))) : Json → Json
  | .object members => .object (knownMembers fields members)
  | j => j

def knownItems (f : Json → Json) : Json → Json
  | .array items => .array (items.map f)
  | j => j

lemma known_eq_null {j : Json} : known fields j = .null ↔ j = .null := by cases j <;> simp [known]

lemma filter_knownMembers (members : List (String × Json)) (name : String) :
    (knownMembers fields members).filter (·.1 = name) = (fields.find? (·.1 = name)).elim [] fun field =>
      (members.filter (·.1 = name)).map fun m => (m.1, field.2 m.2) := by
  induction members with
  | nil => cases fields.find? (·.1 = name) <;> rfl
  | cons m members ih =>
    rw [knownMembers] at ih ⊢
    by_cases hm : m.1 = name
    · cases hfind : fields.find? (·.1 = name) <;> simp [hm, hfind, ih]
    · cases hfind : fields.find? (·.1 = m.1) <;> simp [hm, hfind, ih]

lemma lookup_eq (members : List (String × Json)) (name : String) :
    lookup members name = (members.filter (·.1 = name)).head?.map (·.2) := by
  rw [lookup, List.head?_filter]

def knownValues (fields : List (String × (Json → Json))) (values : String → Option Json) : String → Option Json :=
  fun name => (fields.find? (·.1 = name)).bind fun field => (values name).map field.2

lemma lookup_knownMembers (members : List (String × Json)) :
    lookup (knownMembers fields members) = knownValues fields (lookup members) := by
  funext name
  rw [lookup_eq, filter_knownMembers, knownValues, lookup_eq]
  cases fields.find? (·.1 = name) with
  | none => rfl
  | some field =>
    rw [Option.elim_some, Option.bind_some, List.head?_map, Option.map_map, Option.map_map]
    rfl

lemma record?_known (members : List (String × Json)) : (known fields (.object members)).record? (fields.map (·.1)) =
    ((Json.object members).record? (fields.map (·.1))).map (knownValues fields) := by
  have hcount : ∀ name ∈ fields.map (·.1),
      ((knownMembers fields members).filter (·.1 = name)).length = (members.filter (·.1 = name)).length := by
    intro name hname
    obtain ⟨field, hfield, rfl⟩ := List.mem_map.mp hname
    have hfind : (fields.find? (·.1 = field.1)).isSome := List.find?_isSome.mpr ⟨field, hfield, by simp⟩
    rw [filter_knownMembers]
    obtain ⟨f, hf⟩ := Option.isSome_iff_exists.mp hfind
    rw [hf, Option.elim_some, List.length_map]
  have hall : (fields.map (·.1)).all (fun name => ((knownMembers fields members).filter (·.1 = name)).length ≤ 1) =
      (fields.map (·.1)).all (fun name => (members.filter (·.1 = name)).length ≤ 1) := by
    rw [Bool.eq_iff_iff, List.all_eq_true, List.all_eq_true]
    exact forall₂_congr fun name hname => by rw [hcount name hname]
  rw [known, record?, record?, hall, lookup_knownMembers]
  split <;> rfl

lemma read_known {read : Json → Option α} (build : (String → Option Json) → Option α)
    (hread : ∀ j, read j = (j.record? (fields.map (·.1))).bind build)
    (hbuild : ∀ values, build (knownValues fields values) = build values) (j : Json) : read (known fields j) = read j := by
  cases j with
  | object members =>
    rw [hread, hread, record?_known]
    cases (Json.object members).record? (fields.map (·.1)) with
    | none => rfl
    | some values => exact hbuild values
  | _ => rfl

lemma required_map {read : Json → Option α} (h : ∀ j, read (f j) = read j) (field : Option Json) :
    required read (field.map f) = required read field := by
  cases field with
  | none => rfl
  | some j => exact h j

lemma optional_eq_map {read : Json → Option α} {j : Json} (h : j ≠ .null) :
    optional read (some j) = (read j).map some := by
  cases j <;> first | exact absurd rfl h | rfl

lemma optional_map {read : Json → Option α} (h : ∀ j, read (f j) = read j) (hnull : ∀ j, f j = .null ↔ j = .null)
    (field : Option Json) : optional read (field.map f) = optional read field := by
  cases field with
  | none => rfl
  | some j =>
    by_cases hj : j = .null
    · rw [Option.map_some, (hnull j).mpr hj, hj]
    · rw [Option.map_some, optional_eq_map fun he => hj ((hnull j).mp he), optional_eq_map hj, h]

lemma optional_write {read : Json → Option α} {write : α → Json} (h : ∀ a, read (write a) = some a)
    (hnull : ∀ a, write a ≠ .null) (o : Option α) : optional read (o.map write) = some o := by
  cases o with
  | none => rfl
  | some a => rw [Option.map_some, optional_eq_map (hnull a), h, Option.map_some]

lemma optional_string (o : Option String) : optional string? (o.map .string) = some o := by
  apply optional_write
  · exact fun _ => rfl
  · exact nofun

lemma uint64?_toNat (n : UInt64) : uint64? (.natural n.toNat) = some n := by
  have hnat : (natural n.toNat).natural? = some n.toNat := rfl
  rw [uint64?, hnat, Option.bind_eq_bind, Option.bind_some, if_pos n.toNat_lt, UInt64.ofNat_toNat]

lemma mapM_array?_known {read : Json → Option α} (h : ∀ j, read (f j) = read j) (field : Option Json) :
    (defaulted [] array? (field.map (knownItems f))).bind (List.mapM read) =
      (defaulted [] array? field).bind (List.mapM read) := by
  cases field with
  | none => rfl
  | some j =>
    cases j with
    | array items =>
      change (items.map f).mapM read = items.mapM read
      rw [List.mapM_map]
      exact congrArg (List.mapM · items) (funext h)
    | _ => rfl

lemma mapM_write {read : Json → Option α} {write : α → Json} (h : ∀ a, read (write a) = some a) (l : List α) :
    (l.map write).mapM read = some l := by
  induction l with
  | nil => rfl
  | cons a l ih => rw [List.map_cons, List.mapM_cons, h, ih]; rfl

def present (members : List (String × Option Json)) : List (String × Json) :=
  members.filterMap fun (name, value) => value.map (name, ·)

lemma filter_present {members : List (String × Option Json)} (h : (members.map (·.1)).Nodup) (name : String) :
    (present members).filter (·.1 = name) = ((members.find? (·.1 = name)).bind (·.2)).toList.map (name, ·) := by
  induction members with
  | nil => rfl
  | cons m members ih =>
    obtain ⟨n, value⟩ := m
    obtain ⟨hn, hnodup⟩ := List.nodup_cons.mp h
    have hrest := ih hnodup
    rw [present] at hrest ⊢
    by_cases he : n = name
    · have hnone : members.find? (·.1 = name) = none := by
        rw [List.find?_eq_none]
        rintro m hm hname
        exact hn (List.mem_map.mpr ⟨m, hm, (of_decide_eq_true hname).trans he.symm⟩)
      cases value <;> simp [he, hrest, hnone]
    · cases value <;> simp [he, hrest]

lemma record?_ofPresent {members : List (String × Option Json)} (h : (members.map (·.1)).Nodup) (names : List String) :
    (ofPresent members).record? names = some fun name => (members.find? (·.1 = name)).bind (·.2) := by
  have hall : names.all (fun name => ((present members).filter (·.1 = name)).length ≤ 1) = true := by
    rw [List.all_eq_true]
    intro name _
    rw [filter_present h, List.length_map]
    cases (members.find? (·.1 = name)).bind (·.2) <;> rfl
  change (if names.all (fun name => ((present members).filter (·.1 = name)).length ≤ 1) then
    some (lookup (present members)) else none) = _
  rw [if_pos hall]
  congr 1
  funext name
  rw [lookup_eq, filter_present h]
  cases (members.find? (·.1 = name)).bind (·.2) <;> rfl

end ResumableUpload.Json
