/-! The chunks a file is sent in. -/

namespace ResumableUpload

def minChunkSize : Nat := 5 * 1024 * 1024

def maxChunks : Nat := 10000

structure Chunk where
  fileName : String
  declaredType : String
  current : Nat
  total : Nat
deriving DecidableEq, Repr

namespace Chunk

def isFirst (c : Chunk) : Bool := c.current = 1

def isFinal (c : Chunk) : Bool := c.current = c.total

def InRange (c : Chunk) : Prop := 1 ≤ c.current ∧ c.current ≤ c.total ∧ c.total ≤ maxChunks

instance (c : Chunk) : Decidable c.InRange := inferInstanceAs (Decidable (_ ∧ _ ∧ _))

def SizeAdmissible (c : Chunk) (size : Nat) : Prop := c.isFinal = true ∨ minChunkSize ≤ size

instance (c : Chunk) (size : Nat) : Decidable (c.SizeAdmissible size) :=
  inferInstanceAs (Decidable (_ ∨ _))

end Chunk

end ResumableUpload
