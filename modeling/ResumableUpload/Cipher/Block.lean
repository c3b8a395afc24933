/-! Blocks of sixteen bytes, as four columns of four. -/

namespace ResumableUpload.Cipher

structure Column where
  a : UInt8
  b : UInt8
  c : UInt8
  d : UInt8
deriving DecidableEq, Repr

structure Block where
  c0 : Column
  c1 : Column
  c2 : Column
  c3 : Column
deriving DecidableEq, Repr

namespace Column

def zero : Column := ⟨0, 0, 0, 0⟩

@[inline] def xor (x y : Column) : Column := ⟨x.a ^^^ y.a, x.b ^^^ y.b, x.c ^^^ y.c, x.d ^^^ y.d⟩

@[inline] def map (f : UInt8 → UInt8) (x : Column) : Column := ⟨f x.a, f x.b, f x.c, f x.d⟩

@[inline] def rotate (x : Column) : Column := ⟨x.b, x.c, x.d, x.a⟩

def toList (x : Column) : List UInt8 := [x.a, x.b, x.c, x.d]

def ofBytes : List UInt8 → List Column
  | a :: b :: c :: d :: rest => ⟨a, b, c, d⟩ :: ofBytes rest
  | _ => []

end Column

namespace Block

def zero : Block := ⟨.zero, .zero, .zero, .zero⟩

@[inline] def xor (x y : Block) : Block := ⟨x.c0.xor y.c0, x.c1.xor y.c1, x.c2.xor y.c2, x.c3.xor y.c3⟩

@[inline] def map (f : Column → Column) (x : Block) : Block := ⟨f x.c0, f x.c1, f x.c2, f x.c3⟩

def toList (x : Block) : List UInt8 := x.c0.toList ++ x.c1.toList ++ x.c2.toList ++ x.c3.toList

def ofColumns : List Column → List Block
  | c0 :: c1 :: c2 :: c3 :: rest => ⟨c0, c1, c2, c3⟩ :: ofColumns rest
  | _ => []

@[inline] def pushReversed (x : Block) (acc : List UInt8) : List UInt8 :=
  x.c3.d :: x.c3.c :: x.c3.b :: x.c3.a :: x.c2.d :: x.c2.c :: x.c2.b :: x.c2.a ::
    x.c1.d :: x.c1.c :: x.c1.b :: x.c1.a :: x.c0.d :: x.c0.c :: x.c0.b :: x.c0.a :: acc

end Block

end ResumableUpload.Cipher
