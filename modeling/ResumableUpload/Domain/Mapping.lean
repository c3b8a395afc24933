import ResumableUpload.Domain.Mapping.Table

/-! What the characters of a domain name stand for, whatever case or form they are written in. -/

namespace ResumableUpload.Domain.Mapping

open Text

def addItem : List (Option (List Char)) × Option (List Char) → Char → List (Option (List Char)) × Option (List Char)
  -- reads the text of a block; what is being read between guillemets stands last first
  | (items, none), '…' => (none :: items, none)
  | (items, none), '«' => (items, some [])
  | (items, none), c => (some [c] :: items, none)
  | (items, some inner), '»' => (some inner.reverse :: items, none)
  | (items, some inner), c => (items, some (c :: inner))

def itemsOf (text : String) : Array (Option (List Char)) :=
  ((text.toList.filter (· ≠ '\n')).foldl addItem ([], none)).1.reverse.toArray

def blocks : List (Nat × Array (Option (List Char))) :=
  blockTexts.map fun (first, text) => (first, itemsOf text)

def ofChar? (c : Char) : Option (List Char) :=
  if refused.has c then none
  else if ignored.has c then some []
  else match blocks.find? fun (first, items) => first ≤ c.toNat && c.toNat < first + items.size with
    | some (first, items) => some ((items.getD (c.toNat - first) none).getD [c])
    | none => some [c]

def isFixed (c : Char) : Bool := ofChar? c = some [c]

def map? (cs : List Char) : Option (List Char) := (cs.mapM ofChar?).map List.flatten

end ResumableUpload.Domain.Mapping
