/-! Characters by number, put together from blocks. -/

namespace ResumableUpload.Text.Charset

abbrev Index := Array Char

namespace Index

def hole : Char := '.'

def text (s : String) : List Char := s.toList.filter (· ≠ '\n')

def run (first count : Nat) : List Char := (List.range count).map fun i => Char.ofNat (first + i)

def gap (count : Nat) : List Char := List.replicate count hole

def ofBlocks (blocks : List (List Char)) : Index := blocks.flatten.toArray

def char? (index : Index) (n : Nat) : Option Char := index[n]?.filter (· ≠ hole)

end Index

end ResumableUpload.Text.Charset
