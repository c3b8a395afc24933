/-! JSON documents. -/

namespace ResumableUpload

structure Number where
  negative : Bool
  whole : Nat
  fraction : List (Fin 10)
  exponent : Option Int
deriving DecidableEq, Repr

namespace Number

def ofNat (n : Nat) : Number := ⟨false, n, [], none⟩

def natural? (n : Number) : Option Nat :=
  if n.negative = false ∧ n.fraction = [] ∧ n.exponent = none then some n.whole else none

end Number

/-- A document. `unreadable` stands for a text that pairs no surrogates into characters, and for an
object with such a name: a reader may pass over it, but has no use for it. -/
inductive Json
  | null
  | bool (b : Bool)
  | number (n : Number)
  | string (s : String)
  | array (items : List Json)
  | object (members : List (String × Json))
  | unreadable
deriving Repr

namespace Json

def natural (n : Nat) : Json := .number (.ofNat n)

def bool? : Json → Option Bool
  | .bool b => some b
  | _ => none

def string? : Json → Option String
  | .string s => some s
  | _ => none

def natural? : Json → Option Nat
  | .number n => n.natural?
  | _ => none

def uint64? (j : Json) : Option UInt64 := do
  let n ← j.natural?
  if n < UInt64.size then some (.ofNat n) else none

def array? : Json → Option (List Json)
  | .array items => some items
  | _ => none

def object? : Json → Option (List (String × Json))
  | .object members => some members
  | _ => none

def ofPresent (members : List (String × Option Json)) : Json :=
  .object (members.filterMap fun (name, value) => value.map (name, ·))

def depth : Json → Nat
  | .array items => depthItems items + 1
  | .object members => depthMembers members + 1
  | _ => 0
where
  depthItems : List Json → Nat
    | [] => 0
    | item :: rest => max (depth item) (depthItems rest)
  depthMembers : List (String × Json) → Nat
    | [] => 0
    | (_, value) :: rest => max (depth value) (depthMembers rest)

end Json

end ResumableUpload
