import ResumableUpload.Json.Record

/-! Error documents: a list of codes with descriptions. -/

namespace ResumableUpload

structure ErrorEntry where
  code : String
  description : String
deriving DecidableEq, Repr

structure ErrorList where
  errors : List ErrorEntry
deriving DecidableEq, Repr

namespace ErrorEntry

def toJson (e : ErrorEntry) : Json :=
  .object [("code", .string e.code), ("description", .string e.description)]

def ofJson? (j : Json) : Option ErrorEntry := do
  let field ← j.record? ["code", "description"]
  let code ← Json.required Json.string? (field "code")
  let description ← Json.required Json.string? (field "description")
  return { code, description }

end ErrorEntry

namespace ErrorList

def single (code description : String) : ErrorList := ⟨[⟨code, description⟩]⟩

def firstCode? (l : ErrorList) : Option String := l.errors.head?.map (·.code)

def text (l : ErrorList) : String :=
  ", ".intercalate (l.errors.map fun e => e.code ++ ": " ++ e.description)

def toJson (l : ErrorList) : Json := .object [("errors", .array (l.errors.map ErrorEntry.toJson))]

def ofJson? (j : Json) : Option ErrorList := do
  let field ← j.record? ["errors"]
  let items ← Json.defaulted [] Json.array? (field "errors")
  let errors ← items.mapM ErrorEntry.ofJson?
  return { errors }

end ErrorList

end ResumableUpload
