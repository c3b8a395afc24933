/-! White space and the trimming of text at its ends. -/

namespace ResumableUpload.Text

def isBlank (c : Char) : Bool :=
  let n := c.toNat
  (9 ≤ n && n ≤ 13) || n == 0x20 || n == 0x85 || n == 0xa0 || n == 0x1680 ||
    (0x2000 ≤ n && n ≤ 0x200a) || n == 0x2028 || n == 0x2029 || n == 0x202f || n == 0x205f || n == 0x3000

namespace Trim

def start (p : Char → Bool) (cs : List Char) : List Char := cs.dropWhile p

def stop (p : Char → Bool) (cs : List Char) : List Char := (cs.reverse.dropWhile p).reverse

def both (p : Char → Bool) (cs : List Char) : List Char := stop p (start p cs)

end Trim

def trimBy (p : Char → Bool) (s : String) : String := String.ofList (Trim.both p s.toList)

def trimStartBy (p : Char → Bool) (s : String) : String := String.ofList (Trim.start p s.toList)

def trimEndBy (p : Char → Bool) (s : String) : String := String.ofList (Trim.stop p s.toList)

def trim (s : String) : String := trimBy isBlank s

def lower (s : String) : String := String.ofList (s.toList.map Char.toLower)

end ResumableUpload.Text
