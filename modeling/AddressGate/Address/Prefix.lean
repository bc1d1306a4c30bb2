/-
  Address prefixes: the leading bits of an address, which name its network.

  * `prefixMask size length` is a row of `size` octets whose first `length`
    bits are set; a length beyond the octets sets them all;
  * `Address.sharesPrefix a b length`: the addresses are of one family and
    agree under the mask of that length.
-/
import AddressGate.Address.Basic

namespace AddressGate

/-- An octet whose first `length` bits are set (all of them from eight on). -/
def octetMask (length : Nat) : UInt8 := UInt8.ofNat (255 <<< (8 - min length 8))

/-- `size` octets of which the first `length` bits are set: the octet at
    position `i` has the bits that the octets before it leave over. -/
def prefixMask (size length : Nat) : List UInt8 :=
  (List.range size).map fun i => octetMask (length - 8 * i)

@[simp]
theorem length_prefixMask (size length : Nat) : (prefixMask size length).length = size := by
  simp [prefixMask]

/-- The octets with all but the first `length` bits cleared. -/
def masked (os : List UInt8) (length : Nat) : List UInt8 :=
  List.zipWith (· &&& ·) os (prefixMask os.length length)

/-- The addresses are of one family and agree in the first `length` bits. -/
def Address.sharesPrefix (a b : Address) (length : Nat) : Bool :=
  a.family == b.family && masked a.octets length == masked b.octets length

end AddressGate
