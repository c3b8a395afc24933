import ResumableUpload.Cipher.Block

/-! Cipher feedback over whole blocks: each block is combined with the enciphered text before it. -/

namespace ResumableUpload.Cipher.Feedback

def finish (mask : Block) (acc rest : List UInt8) : List UInt8 :=
  -- the bytes of `acc` in reverse, then those of a text shorter than a block under a mask
  acc.reverse ++ List.zipWith (· ^^^ ·) rest mask.toList

def encryptFrom (encipher : Block → Block) (feed : Block) (acc : List UInt8) : List UInt8 → List UInt8
  -- `feed` is the enciphered block before; what is done so far stands in `acc`, last byte first
  | x0 :: x1 :: x2 :: x3 :: x4 :: x5 :: x6 :: x7 :: x8 :: x9 :: x10 :: x11 :: x12 :: x13 :: x14 :: x15 :: rest =>
    let x : Block := ⟨⟨x0, x1, x2, x3⟩, ⟨x4, x5, x6, x7⟩, ⟨x8, x9, x10, x11⟩, ⟨x12, x13, x14, x15⟩⟩
    let y := x.xor (encipher feed)
    encryptFrom encipher y (y.pushReversed acc) rest
  | rest => finish (encipher feed) acc rest

def decryptFrom (encipher : Block → Block) (feed : Block) (acc : List UInt8) : List UInt8 → List UInt8
  | x0 :: x1 :: x2 :: x3 :: x4 :: x5 :: x6 :: x7 :: x8 :: x9 :: x10 :: x11 :: x12 :: x13 :: x14 :: x15 :: rest =>
    let x : Block := ⟨⟨x0, x1, x2, x3⟩, ⟨x4, x5, x6, x7⟩, ⟨x8, x9, x10, x11⟩, ⟨x12, x13, x14, x15⟩⟩
    decryptFrom encipher x ((x.xor (encipher feed)).pushReversed acc) rest
  | rest => finish (encipher feed) acc rest

def encrypt (encipher : Block → Block) (start : Block) (text : List UInt8) : List UInt8 :=
  encryptFrom encipher start [] text

def decrypt (encipher : Block → Block) (start : Block) (text : List UInt8) : List UInt8 :=
  decryptFrom encipher start [] text

end ResumableUpload.Cipher.Feedback
