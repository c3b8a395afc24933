import ResumableUpload.Bytes

/-! The SHA-256 digest. -/

namespace ResumableUpload.Sha256

def roundConstants : Array UInt32 := #[
  0x428a2f98, 0x71374491, 0xb5c0fbcf, 0xe9b5dba5, 0x3956c25b, 0x59f111f1, 0x923f82a4, 0xab1c5ed5,
  0xd807aa98, 0x12835b01, 0x243185be, 0x550c7dc3, 0x72be5d74, 0x80deb1fe, 0x9bdc06a7, 0xc19bf174,
  0xe49b69c1, 0xefbe4786, 0x0fc19dc6, 0x240ca1cc, 0x2de92c6f, 0x4a7484aa, 0x5cb0a9dc, 0x76f988da,
  0x983e5152, 0xa831c66d, 0xb00327c8, 0xbf597fc7, 0xc6e00bf3, 0xd5a79147, 0x06ca6351, 0x14292967,
  0x27b70a85, 0x2e1b2138, 0x4d2c6dfc, 0x53380d13, 0x650a7354, 0x766a0abb, 0x81c2c92e, 0x92722c85,
  0xa2bfe8a1, 0xa81a664b, 0xc24b8b70, 0xc76c51a3, 0xd192e819, 0xd6990624, 0xf40e3585, 0x106aa070,
  0x19a4c116, 0x1e376c08, 0x2748774c, 0x34b0bcb5, 0x391c0cb3, 0x4ed8aa4a, 0x5b9cca4f, 0x682e6ff3,
  0x748f82ee, 0x78a5636f, 0x84c87814, 0x8cc70208, 0x90befffa, 0xa4506ceb, 0xbef9a3f7, 0xc67178f2]

structure State where
  a : UInt32
  b : UInt32
  c : UInt32
  d : UInt32
  e : UInt32
  f : UInt32
  g : UInt32
  h : UInt32
deriving DecidableEq, Repr

def initial : State :=
  ⟨0x6a09e667, 0xbb67ae85, 0x3c6ef372, 0xa54ff53a,
    0x510e527f, 0x9b05688c, 0x1f83d9ab, 0x5be0cd19⟩

@[inline] def rotate (x n : UInt32) : UInt32 := (x >>> n) ||| (x <<< (32 - n))

@[inline] def State.add (s t : State) : State :=
  ⟨s.a + t.a, s.b + t.b, s.c + t.c, s.d + t.d, s.e + t.e, s.f + t.f, s.g + t.g, s.h + t.h⟩

@[inline] def State.round (s : State) (constant word : UInt32) : State :=
  let mixed := rotate s.e 6 ^^^ rotate s.e 11 ^^^ rotate s.e 25
  let chosen := (s.e &&& s.f) ^^^ ((~~~s.e) &&& s.g)
  let t := s.h + mixed + chosen + constant + word
  let sum := rotate s.a 2 ^^^ rotate s.a 13 ^^^ rotate s.a 22
  let majority := (s.a &&& s.b) ^^^ (s.a &&& s.c) ^^^ (s.b &&& s.c)
  ⟨t + (sum + majority), s.a, s.b, s.c, s.d + t, s.e, s.f, s.g⟩

@[inline] def byteAt (b : Bytes) (i : Nat) : UInt32 :=
  if h : i < b.size then b[i].toUInt32 else 0

@[inline] def wordAt (b : Bytes) (i : Nat) : UInt32 :=
  (byteAt b i <<< 24) ||| (byteAt b (i + 1) <<< 16) ||| (byteAt b (i + 2) <<< 8) ||| byteAt b (i + 3)

def words (b : Bytes) (i : Nat) : Array UInt32 :=
  let first := (Array.range 16).map fun j => wordAt b (i + 4 * j)
  (List.range 48).foldl (fun (w : Array UInt32) j =>
    let x := w.getD (j + 1) 0
    let y := w.getD (j + 14) 0
    let x' := rotate x 7 ^^^ rotate x 18 ^^^ (x >>> 3)
    let y' := rotate y 17 ^^^ rotate y 19 ^^^ (y >>> 10)
    w.push (w.getD j 0 + x' + w.getD (j + 9) 0 + y')) first

def compress (s : State) (w : Array UInt32) : State :=
  s.add ((List.range 64).foldl (fun s j => s.round (roundConstants.getD j 0) (w.getD j 0)) s)

def absorb (b : Bytes) : Nat → Nat → State → State
  | 0, _, s => s
  | blocks + 1, i, s => absorb b blocks (i + 64) (compress s (words b i))

def ending (b : Bytes) : Bytes :=
  let rest := b.extract (b.size / 64 * 64) b.size
  let zeros := (119 - rest.size) % 64
  let bits := 8 * b.size
  rest ++ .ofList ([0x80] ++ List.replicate zeros 0 ++ (List.range 8).map fun k => .ofNat (bits >>> (8 * (7 - k))))

def State.toList (s : State) : List UInt8 :=
  [s.a, s.b, s.c, s.d, s.e, s.f, s.g, s.h].flatMap fun (w : UInt32) =>
    [(w >>> 24).toUInt8, (w >>> 16).toUInt8, (w >>> 8).toUInt8, w.toUInt8]

def digest (b : Bytes) : List UInt8 :=
  let tail := ending b
  let s := absorb b (b.size / 64) 0 initial
  (absorb tail (tail.size / 64) 0 s).toList

end ResumableUpload.Sha256
