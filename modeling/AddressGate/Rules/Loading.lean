/-
  Rules from configuration, with warnings for entries that will surprise.

  * `Rules.warnings` reports every entry that is not well-formed, those of the
    blacklist first: with a slash it never matches, without one it matches
    itself alone.  Such entries are kept;
  * `Rules.load` reads two comma-separated lists.
-/
import AddressGate.Event
import AddressGate.Pattern

namespace AddressGate

/-- The warning for an entry of a list, if it is not well-formed. -/
def entryWarning? (list : ListName) (entry : String) : Option Event :=
  if Pattern.isWellFormed entry then none
  else if Pattern.isSubnet entry then some (.malformedEntry list entry)
  else some (.verbatimEntry list entry)

namespace Rules

/-- The warnings for the entries of a list, in order. -/
def listWarnings (r : Rules) (list : ListName) : List Event :=
  (r.entries list).filterMap (entryWarning? list)

/-- The warnings for all entries. -/
def warnings (r : Rules) : List Event :=
  r.listWarnings .blacklist ++ r.listWarnings .whitelist

/-- The rules with their warnings reported. -/
def withWarnings (r : Rules) : Reported Event Rules := ⟨r, r.warnings⟩

/-- Reads two comma-separated lists. -/
def load (blacklist whitelist : String) : Reported Event Rules :=
  (ofLists blacklist whitelist).withWarnings

end Rules

end AddressGate
