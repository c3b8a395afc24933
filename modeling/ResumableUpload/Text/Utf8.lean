import ResumableUpload.Bytes

/-! Text as bytes: encoding, strict decoding, and decoding that replaces what is malformed. -/

namespace ResumableUpload.Text.Utf8

def encode (s : String) : List UInt8 := s.toList.flatMap String.utf8EncodeChar

def decode? (b : Bytes) : Option String := String.fromUTF8? b

def announced (b : UInt8) : Option (Nat × UInt8 × UInt8) :=
  if 0xc2 ≤ b ∧ b ≤ 0xdf then some (1, 0x80, 0xbf)
  else if b = 0xe0 then some (2, 0xa0, 0xbf)
  else if b = 0xed then some (2, 0x80, 0x9f)
  else if 0xe1 ≤ b ∧ b ≤ 0xef then some (2, 0x80, 0xbf)
  else if b = 0xf0 then some (3, 0x90, 0xbf)
  else if 0xf1 ≤ b ∧ b ≤ 0xf3 then some (3, 0x80, 0xbf)
  else if b = 0xf4 then some (3, 0x80, 0x8f)
  else none

def continuation : Nat → UInt8 → UInt8 → List UInt8 → List UInt8
  | 0, _, _, _ => []
  | _, _, _, [] => []
  | n + 1, low, high, b :: rest =>
    if low ≤ b ∧ b ≤ high then b :: continuation n 0x80 0xbf rest else []

def scalar (first : UInt8) (rest : List UInt8) : Char :=
  let lead := match rest.length with
    | 1 => first.toNat % 0x20
    | 2 => first.toNat % 0x10
    | _ => first.toNat % 0x08
  Char.ofNat (rest.foldl (fun n b => n * 0x40 + b.toNat % 0x40) lead)

def decodeLossyFrom (fuel : Nat) (acc : List Char) : List UInt8 → List Char
  -- each longest malformed sequence becomes one replacement character
  | [] => acc.reverse
  | b :: rest =>
    match fuel with
    | 0 => acc.reverse
    | fuel + 1 =>
      if b < 0x80 then decodeLossyFrom fuel (Char.ofNat b.toNat :: acc) rest
      else match announced b with
        | none => decodeLossyFrom fuel ('\ufffd' :: acc) rest
        | some (n, low, high) =>
          let more := continuation n low high rest
          let c := if more.length = n then scalar b more else '\ufffd'
          decodeLossyFrom fuel (c :: acc) (rest.drop more.length)

def decodeLossy (b : Bytes) : String :=
  match decode? b with
  | some s => s
  | none => String.ofList (decodeLossyFrom b.size [] b.octets)

end ResumableUpload.Text.Utf8
