import ResumableUpload.Chunk

/-! How a client cuts a file into chunks. -/

namespace ResumableUpload.Client

/-- A program is built with a check of its arithmetic, or numbers wrap around. -/
inductive Build
  | checked
  | unchecked
deriving DecidableEq, Repr

inductive Panic
  | multiplication
  | division
deriving DecidableEq, Repr

def Panic.message : Panic → String
  | .multiplication => "attempt to multiply with overflow"
  | .division => "attempt to divide by zero"

structure Chunking where
  chunkSize : UInt64 := .ofNat minChunkSize
  maxChunks : UInt32 := .ofNat ResumableUpload.maxChunks
deriving DecidableEq, Repr

namespace Chunking

/-- The product wraps around at 2^64. -/
def maxFileSize (c : Chunking) : UInt64 := c.chunkSize * c.maxChunks.toUInt64

def maxFileSize? (c : Chunking) (b : Build) : Except Panic UInt64 :=
  if b = .checked ∧ UInt64.size ≤ c.chunkSize.toNat * c.maxChunks.toNat then .error .multiplication
  else .ok c.maxFileSize

def totalChunks? (c : Chunking) (size : UInt64) : Option UInt32 :=
  if c.chunkSize = 0 then none
  else some (.ofNat (size.toNat / c.chunkSize.toNat + if size.toNat % c.chunkSize.toNat = 0 then 0 else 1))

def offset (c : Chunking) (current : UInt32) : UInt64 := (current - 1).toUInt64 * c.chunkSize

def length (c : Chunking) (size : UInt64) (current : UInt32) : UInt64 := min c.chunkSize (size - c.offset current)

end Chunking

end ResumableUpload.Client
