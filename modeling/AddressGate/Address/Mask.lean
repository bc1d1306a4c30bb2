/-
  Masks that are filled in place, in words of fixed width.

  * `filledMask size length` takes a row of zero octets, sets the whole octets at
    its front, and then the one octet that the mask covers in part;
  * a step that its word or the row has no room for is a `MaskFault`: a product
    or a difference outside its word, a shift of an octet by all its bits or
    more, an octet that the row does not have.
-/
import AddressGate.Address.Prefix

namespace AddressGate

/-- A step that a word or a row has no room for. -/
inductive MaskFault where
  /-- A product is too large for its word, or a difference is negative. -/
  | overflow
  /-- An octet is shifted by all its bits or more. -/
  | shift
  /-- The row does not have the octet. -/
  | bounds
  deriving DecidableEq, Repr

namespace Mask

/-- The product of two words. -/
def mul (a b : UInt64) : Except MaskFault UInt64 :=
  if a.toNat * b.toNat < UInt64.size then .ok (a * b) else .error .overflow

/-- The difference of two words. -/
def sub (a b : UInt64) : Except MaskFault UInt64 :=
  if b ≤ a then .ok (a - b) else .error .overflow

/-- The difference of two octets. -/
def subOctet (a b : UInt8) : Except MaskFault UInt8 :=
  if b ≤ a then .ok (a - b) else .error .overflow

/-- The octet moved towards its most significant bit. -/
def shiftLeft (o : UInt8) (n : UInt64) : Except MaskFault UInt8 :=
  if n < 8 then .ok (o <<< n.toUInt8) else .error .shift

/-- The row with other octets at its front, `n` times the same. -/
def fill (os : List UInt8) (n : UInt64) (o : UInt8) : Except MaskFault (List UInt8) :=
  if n.toNat ≤ os.length then .ok (List.replicate n.toNat o ++ os.drop n.toNat)
  else .error .bounds

/-- The row with another octet at a position. -/
def set (os : List UInt8) (i : UInt64) (o : UInt8) : Except MaskFault (List UInt8) :=
  if i.toNat < os.length then .ok (os.set i.toNat o) else .error .bounds

/-- An octet whose first `length` bits are set, less than all of them. -/
def lastOctet (length : UInt64) : Except MaskFault UInt8 := do
  let high ← shiftLeft 1 (← sub 8 length)
  return ~~~(← subOctet high 1)

end Mask

/-- A row of `size` octets whose first `length` bits are set. -/
def filledMask (size : UInt64) (length : UInt32) : Except MaskFault (List UInt8) := do
  let bits := min length.toUInt64 (← Mask.mul size 8)
  let mask ← Mask.fill (List.replicate size.toNat 0) (bits / 8) 0xFF
  if 0 < bits % 8 then Mask.set mask (bits / 8) (← Mask.lastOctet (bits % 8))
  else return mask

end AddressGate
