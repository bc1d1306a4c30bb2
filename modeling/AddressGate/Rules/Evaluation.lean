/-
  Decisions about requests.

  The blacklist always wins.  A whitelist with entries denies everything that
  it does not match, and rules without entries allow everything.

  * `Rules.evaluate` decides for a remote address in text form, in this order:
    blacklist, whitelist.  A denial is reported behind what matching reported;
  * `Rules.evaluateAddress` decides for the address of a connection, which is
    unknown for some connections.  An unknown address is allowed exactly if
    there is no whitelist.
-/
import AddressGate.Event
import AddressGate.Pattern

namespace AddressGate

/-- The decision for a request. -/
inductive Outcome where
  | allowed
  | denied
  deriving DecidableEq, Repr

namespace Rules

/-- The remote address matches a list. -/
def lists (r : Rules) (list : ListName) (remote : String) : Reported Event Bool :=
  (Pattern.anyAccepts remote (r.entries list)).mapEvents Event.unreadable

/-- A reported denial. -/
def deny (d : Denial) : Reported Event Outcome := ⟨.denied, [.requestDenied d]⟩

/-- Decides for a remote address in text form. -/
def evaluate (r : Rules) (remote : String) : Reported Event Outcome := do
  if ← r.lists .blacklist remote then deny (.blacklisted remote)
  else if r.whitelist.isEmpty then return .allowed
  else if ← r.lists .whitelist remote then return .allowed
  else deny (.notWhitelisted remote)

/-- Decides for the address of a connection. -/
def evaluateAddress (r : Rules) : Option Address → Reported Event Outcome
  | some a => r.evaluate a.canonical.text
  | none => if r.whitelist.isEmpty then pure .allowed else deny .unknownRemote

end Rules

end AddressGate
