/-
  Network addresses of the two Internet protocol families.

  * An `Address` is its family and the octets of that family in network order
    (four or sixteen), so an IPv4 address and the IPv6 address that maps it
    differ;
  * `Address.groups` reads the octets in pairs, as IPv6 writes them;
  * `Address.toNat` reads them as one number, as `bigEndian` reads any row;
  * `Address.canonical` turns an IPv4-mapped IPv6 address, as a listener for
    both families reports it, back into the IPv4 address.
-/

namespace AddressGate

/-- The two families of addresses. -/
inductive Family where
  | v4
  | v6
  deriving DecidableEq, Repr

/-- The number of octets of an address. -/
def Family.size : Family → Nat
  | v4 => 4
  | v6 => 16

/-- The number of bits of an address. -/
def Family.bits (f : Family) : Nat := 8 * f.size

/-- A row of octets read as one number, the most significant octet first. -/
def bigEndian (os : List UInt8) : Nat := os.foldl (fun n o => 256 * n + o.toNat) 0

/-- An address in network order. -/
structure Address where
  family : Family
  octets : List UInt8
  length_octets : octets.length = family.size
  deriving DecidableEq, Repr

namespace Address

/-- The address with the given octets, if their number is that of the family. -/
def ofOctets? (f : Family) (octets : List UInt8) : Option Address :=
  if h : octets.length = f.size then some ⟨f, octets, h⟩ else none

/-- The two octets of a sixteen bit group, the high one first. -/
def groupOctets (g : Nat) : List UInt8 := [UInt8.ofNat (g / 256), UInt8.ofNat g]

/-- The IPv6 address with the given groups, if there are eight. -/
def ofGroups? (gs : List Nat) : Option Address :=
  ofOctets? .v6 (gs.flatMap groupOctets)

/-- Octets read in pairs, as big-endian numbers. -/
def pairs : List UInt8 → List Nat
  | hi :: lo :: rest => (256 * hi.toNat + lo.toNat) :: pairs rest
  | _ => []

/-- The sixteen bit groups of the address. -/
def groups (a : Address) : List Nat := pairs a.octets

/-- The number of bits of the address. -/
def bits (a : Address) : Nat := a.family.bits

/-- The number of the address. -/
def toNat (a : Address) : Nat := bigEndian a.octets

/-- What stands before the IPv4 address in the IPv6 address that maps it:
    eighty zero bits, then sixteen set ones. -/
def mappedHead : List UInt8 := List.replicate 10 0 ++ [0xFF, 0xFF]

/-- An IPv4-mapped IPv6 address becomes the IPv4 address of its last four
    octets; every other address stays. -/
def canonical (a : Address) : Address :=
  if h : a.family = .v6 ∧ a.octets.take 12 = mappedHead then
    ⟨.v4, a.octets.drop 12, by simp [a.length_octets, h.1, Family.size]⟩
  else a

@[ext]
theorem ext {a b : Address} (hf : a.family = b.family) (ho : a.octets = b.octets) : a = b := by
  cases a; cases b; cases hf; cases ho; rfl

end Address

end AddressGate
