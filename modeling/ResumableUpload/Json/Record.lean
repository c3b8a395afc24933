import ResumableUpload.Json.Basic

/-! Records in JSON: an object with the record's names, or an array of its fields in their order. -/

namespace ResumableUpload.Json

def lookup (members : List (String × Json)) (name : String) : Option Json :=
  (members.find? (·.1 = name)).map (·.2)

def record? (names : List String) : Json → Option (String → Option Json)
  | .object members =>
    if names.all fun name => (members.filter (·.1 = name)).length ≤ 1 then some (lookup members) else none
  | .array items =>
    if items.length ≤ names.length then some fun name => lookup (names.zip items) name else none
  | _ => none

def required (read : Json → Option α) (field : Option Json) : Option α := field.bind read

def defaulted (fallback : α) (read : Json → Option α) : Option Json → Option α
  | none => some fallback
  | some j => read j

def optional (read : Json → Option α) : Option Json → Option (Option α)
  | none => some none
  | some .null => some none
  | some j => (read j).map some

def word? (read : String → Option α) : Json → Option α
  -- one of several words: as a text, or as the only name of an object, with the value null
  | .string s => read s
  | .object [(s, .null)] => read s
  | _ => none

end ResumableUpload.Json
