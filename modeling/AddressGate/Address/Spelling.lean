/-
  Addresses as text.

  * `Address.parse?` reads the two forms that are understood: an IPv4 dotted
    quad of groups of one to three decimal digits, of which only the low eight
    bits count (`999` is `231`), and IPv6 as eight groups of one to four hex
    digits.  There is no `::` and no embedded IPv4 tail.  A text is first cut
    into groups of the right number and shape (`groups?`); the shape admits
    decimal digits of any script, but only those of ASCII have a value
    (`groupValue?`);
  * `Address.text` writes the one form that has no redundant digit: decimal
    groups, or lower case hex groups, without leading zeros.
-/
import AddressGate.Address.Basic
import AddressGate.Text.DecimalDigit
import AddressGate.Text.Number

namespace AddressGate.Address

/-- A row of one to `width` digits. -/
def isGroup (digit : Char → Bool) (width : Nat) (cs : List Char) : Bool :=
  !cs.isEmpty && cs.length ≤ width && cs.all digit

/-- The groups of digits between the separators, if they are `count` groups of
    at most `width` digits. -/
def groups? (sep : Char) (digit : Char → Bool) (width count : Nat) (cs : List Char) :
    Option (List (List Char)) :=
  let gs := cs.splitOn sep
  if gs.length = count ∧ gs.all (isGroup digit width) then some gs else none

/-- Groups are read as numbers of sixteen bits. -/
def groupBound : Nat := UInt16.size

/-- The value of a group. -/
def groupValue? (base : Nat) (group : List Char) : Option Nat :=
  (Text.number? base group).filter (· < groupBound)

/-- An IPv4 dotted quad. -/
def dottedQuad? (cs : List Char) : Option Address := do
  let gs ← groups? '.' Text.isDecimalDigit 3 4 cs
  let ns ← gs.mapM (groupValue? 10)
  ofOctets? .v4 (ns.map UInt8.ofNat)

/-- The eight groups of an IPv6 address. -/
def hexGroups? (cs : List Char) : Option Address := do
  let gs ← groups? ':' Text.isHexDigit 4 8 cs
  let ns ← gs.mapM (groupValue? 16)
  ofGroups? ns

/-- Reads an address in one of the two forms. -/
def parse? (s : String) : Option Address :=
  dottedQuad? s.toList <|> hexGroups? s.toList

/-- The form of the address that has no redundant digit. -/
def text (a : Address) : String :=
  String.ofList <| match a.family with
    | .v4 => ['.'].intercalate (a.octets.map fun o => Nat.toDigits 10 o.toNat)
    | .v6 => [':'].intercalate (a.groups.map (Nat.toDigits 16))

end AddressGate.Address
