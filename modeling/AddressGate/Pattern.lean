/-
  Patterns: the entries of address lists.

  A pattern with a slash is a subnet specifier, any other pattern stands for
  itself, letter by letter.

  * `Pattern.accepts pattern candidate` tests one pattern, `anyAccepts` the
    patterns of a list in order up to the first that matches; a pattern that
    matches reports nothing;
  * `Pattern.isWellFormed` is meant for a look at a list before it is used: it
    tells the specifiers and addresses that can be read from all other texts.
-/
import AddressGate.Subnet

namespace AddressGate

namespace Pattern

/-- The pattern is written as a subnet specifier. -/
def isSubnet (pattern : String) : Bool := pattern.toList.contains '/'

/-- The candidate matches the pattern. -/
def accepts (pattern candidate : String) : Reported Diagnostic Bool :=
  if isSubnet pattern then Subnet.holds pattern candidate else pure (pattern == candidate)

/-- The candidate matches some pattern of the list; those behind the first
    match are not looked at. -/
def anyAccepts (candidate : String) : List String → Reported Diagnostic Bool
  | [] => pure false
  | p :: ps => do
    if ← accepts p candidate then return true
    anyAccepts candidate ps

/-- The pattern is a subnet specifier or an address that can be read. -/
def isWellFormed (pattern : String) : Bool :=
  if isSubnet pattern then
    match Subnet.sides? pattern with
    | some (address, digits) =>
      (Subnet.length? digits).isSome && (Address.parse? address).isSome
    | none => false
  else (Address.parse? pattern).isSome

end Pattern

end AddressGate
