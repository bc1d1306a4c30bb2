/-
  Access rules for request addresses: a blacklist and a whitelist of patterns.

  * `Rules` are the two lists, in the order in which they were given;
  * `splitEntries` cuts a comma-separated list into trimmed entries and skips
    the empty ones;
  * `Rules.ofLists` reads the two lists from such texts.
-/
import AddressGate.Text.Blank

namespace AddressGate

/-- The two lists of the rules. -/
inductive ListName where
  | blacklist
  | whitelist
  deriving DecidableEq, Repr

/-- The name under which a list is written down and reported. -/
def ListName.text : ListName → String
  | blacklist => "blacklist"
  | whitelist => "whitelist"

theorem ListName.text_injective {l m : ListName} (h : l.text = m.text) : l = m := by
  cases l <;> cases m <;> first | rfl | exact absurd h (by decide)

/-- Both lists, in the order in which they are written down. -/
def ListName.all : List ListName := [blacklist, whitelist]

/-- A blacklist and a whitelist of patterns. -/
structure Rules where
  blacklist : List String
  whitelist : List String
  deriving DecidableEq, Repr

/-- The entries of a comma-separated list. -/
def splitEntries (text : String) : List String :=
  (((text.toList.splitOn ',').map Text.trim).filter (· ≠ [])).map String.ofList

namespace Rules

/-- The rules without entries; they allow everything. -/
def empty : Rules := ⟨[], []⟩

/-- Neither list has entries. -/
def isEmpty (r : Rules) : Bool := r.blacklist.isEmpty && r.whitelist.isEmpty

/-- The entries of a list. -/
def entries (r : Rules) : ListName → List String
  | .blacklist => r.blacklist
  | .whitelist => r.whitelist

/-- The rules with other entries in a list. -/
def withEntries (r : Rules) (list : ListName) (es : List String) : Rules :=
  match list with
  | .blacklist => { r with blacklist := es }
  | .whitelist => { r with whitelist := es }

/-- The rules with one more entry at the end of a list. -/
def push (r : Rules) (list : ListName) (entry : String) : Rules :=
  r.withEntries list (r.entries list ++ [entry])

/-- The rules with no entries in a list. -/
def clear (r : Rules) (list : ListName) : Rules := r.withEntries list []

/-- The rules of two comma-separated lists. -/
def ofLists (blacklist whitelist : String) : Rules :=
  ⟨splitEntries blacklist, splitEntries whitelist⟩

@[simp]
theorem entries_withEntries_self (r : Rules) (list : ListName) (es : List String) :
    (r.withEntries list es).entries list = es := by
  cases list <;> rfl

theorem entries_withEntries_of_ne (r : Rules) {l m : ListName} (h : l ≠ m) (es : List String) :
    (r.withEntries l es).entries m = r.entries m := by
  cases l <;> cases m <;> simp_all [withEntries, entries]

end Rules

end AddressGate
