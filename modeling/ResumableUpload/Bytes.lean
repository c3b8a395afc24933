/-! Byte strings: payloads, message bodies and keys, with their list of bytes as the view. -/

namespace ResumableUpload

abbrev Bytes := ByteArray

namespace Bytes

def ofList (l : List UInt8) : Bytes := ⟨l.toArray⟩

def octets (b : Bytes) : List UInt8 := b.data.toList

@[simp] theorem octets_ofList (l : List UInt8) : octets (ofList l) = l := rfl

@[simp] theorem ofList_octets (b : Bytes) : ofList (octets b) = b := rfl

@[simp] theorem octets_append (a b : Bytes) : octets (a ++ b) = octets a ++ octets b := by
  simp [octets, ByteArray.data_append]

@[simp] theorem length_octets (b : Bytes) : (octets b).length = b.size := by
  simp only [octets, Array.length_toList]
  rfl

theorem octets_injective {a b : Bytes} (h : octets a = octets b) : a = b := by
  rw [← ofList_octets a, h, ofList_octets]

theorem octets_extract (b : Bytes) (i j : Nat) :
    octets (b.extract i j) = ((octets b).drop i).take (j - i) := by
  simp [octets, ByteArray.data_extract, Array.toList_extract, List.extract]

def agreesFrom (b pattern : Bytes) (i j : Nat) : Bool :=
  if h : j < pattern.size then
    if h' : i + j < b.size then b[i + j] == pattern[j] && agreesFrom b pattern i (j + 1) else false
  else true
termination_by pattern.size - j

def hasAt (b pattern : Bytes) (i : Nat) : Bool := agreesFrom b pattern i 0

def findFrom (b pattern : Bytes) (i : Nat) : Option Nat :=
  if hasAt b pattern i then some i
  else if i < b.size then findFrom b pattern (i + 1)
  else none
termination_by b.size - i

end Bytes

end ResumableUpload
