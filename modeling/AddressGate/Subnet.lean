/-
  Subnet specifiers `<address>/<length>`.

  * `Subnet.sides?` cuts a specifier at its one slash: an address text that is
    not empty, and decimal digits of any script.  `Subnet.split?` also reads
    the digits, which have a value only if they are those of ASCII and the
    value is below `2 ^ 32`;
  * `Subnet.parse` also reads the address; what cannot be read is the
    `Diagnostic`;
  * `Subnet.holds subnet candidate` tests a candidate address in text form.  A
    specifier or address that cannot be read holds nothing and is reported:
    the specifier first, then its address, then the candidate, so at most one
    diagnostic is given.
-/
import AddressGate.Address.Prefix
import AddressGate.Address.Spelling
import AddressGate.Reported

namespace AddressGate

/-- What could not be read while matching. -/
inductive Diagnostic where
  /-- The text is no subnet specifier. -/
  | malformedPattern (pattern : String)
  /-- The text is no address. -/
  | malformedAddress (address : String)
  deriving DecidableEq, Repr

/-- The addresses that share the first `length` bits with `base`. -/
structure Subnet where
  base : Address
  length : Nat
  deriving DecidableEq, Repr

namespace Subnet

/-- Prefix lengths are numbers of 32 bits. -/
def lengthBound : Nat := UInt32.size

/-- The address text and the digits of a specifier. -/
def sides? (specifier : String) : Option (String × List Char) :=
  match specifier.toList.splitOn '/' with
  | [address, digits] =>
    if !address.isEmpty && !digits.isEmpty && digits.all Text.isDecimalDigit then
      some (String.ofList address, digits)
    else none
  | _ => none

/-- A prefix length in decimal digits. -/
def length? (digits : List Char) : Option Nat :=
  (Text.number? 10 digits).filter (· < lengthBound)

/-- The address text and the length of a specifier. -/
def split? (specifier : String) : Option (String × Nat) := do
  let (address, digits) ← sides? specifier
  return (address, ← length? digits)

/-- An address text, or the report that it is none. -/
def readAddress (s : String) : Except Diagnostic Address :=
  match Address.parse? s with
  | some a => .ok a
  | none => .error (.malformedAddress s)

/-- Reads a specifier; what cannot be read is the error. -/
def parse (specifier : String) : Except Diagnostic Subnet :=
  match split? specifier with
  | none => .error (.malformedPattern specifier)
  | some (address, n) => do return ⟨← readAddress address, n⟩

/-- The address lies in the subnet. -/
def contains (s : Subnet) (a : Address) : Bool := s.base.sharesPrefix a s.length

/-- The candidate lies in the subnet, or the first thing that cannot be
    read. -/
def test (specifier candidate : String) : Except Diagnostic Bool := do
  let subnet ← parse specifier
  return subnet.contains (← readAddress candidate)

/-- The candidate lies in the subnet.  What cannot be read is reported and
    holds nothing. -/
def holds (specifier candidate : String) : Reported Diagnostic Bool :=
  match test specifier candidate with
  | .ok b => ⟨b, []⟩
  | .error d => ⟨false, [d]⟩

end Subnet

end AddressGate
