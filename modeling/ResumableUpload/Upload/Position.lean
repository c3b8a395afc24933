import ResumableUpload.Chunk
import ResumableUpload.Failure.Upload

/-! The check of a chunk's place in its file. -/

namespace ResumableUpload.Chunk

def checkPosition (c : Chunk) : Except UploadError Unit :=
  if c.current = 0 ∨ c.total = 0 then
    .error (.invalidPosition s!"chunk {c.current} of {c.total}: chunk numbers start at 1")
  else if maxChunks < c.total then
    .error (.invalidPosition s!"total of {c.total} chunks exceeds the limit of {maxChunks}")
  else if c.total < c.current then
    .error (.invalidPosition s!"chunk {c.current} is beyond total {c.total}")
  else .ok ()

theorem checkPosition_eq_ok_iff (c : Chunk) : c.checkPosition = .ok () ↔ c.InRange := by
  unfold checkPosition InRange
  split
  · simp only [reduceCtorEq, false_iff]
    omega
  · split
    · simp only [reduceCtorEq, false_iff]
      omega
    · split
      · simp only [reduceCtorEq, false_iff]
        omega
      · simp only [true_iff]
        omega

end ResumableUpload.Chunk
