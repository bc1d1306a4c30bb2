/-
  Rules from the environment.

  Each list is the value of a variable, as a comma-separated list; a missing
  variable is an empty list.  A value that is not UTF-8 is an
  `EnvironmentError`: the blacklist is read first, and a failure reports
  nothing.  After the warnings the numbers of entries are reported.
-/
import AddressGate.Rules.Loading
import AddressGate.Text.Quoted

namespace AddressGate

/-- The name of the variable that holds a list. -/
def ListName.variableName : ListName → String
  | blacklist => "REQUEST_IP_BLACKLIST"
  | whitelist => "REQUEST_IP_WHITELIST"

/-- A variable whose value is not UTF-8. -/
structure EnvironmentError where
  name : String
  value : List UInt8
  deriving DecidableEq, Repr

/-- The wording of the error, with the value in quotes. -/
def EnvironmentError.message (e : EnvironmentError) : String :=
  "Cannot read " ++ e.name ++ ": environment variable was not valid unicode: " ++
    String.ofList (Text.rawQuoted e.value)

/-- The text of a variable, empty for a missing one. -/
def readVariable (value? : String → Option ByteArray) (name : String) :
    Except EnvironmentError String :=
  match value? name with
  | none => .ok ""
  | some bytes =>
    match String.fromUTF8? bytes with
    | some s => .ok s
    | none => .error ⟨name, bytes.toList⟩

namespace Rules

/-- Reads both lists from the environment. -/
def ofEnvironment (value? : String → Option ByteArray) :
    Except EnvironmentError (Reported Event Rules) := do
  let blacklist ← readVariable value? ListName.blacklist.variableName
  let whitelist ← readVariable value? ListName.whitelist.variableName
  return do
    let rules ← load blacklist whitelist
    Reported.report (.rulesLoaded rules.blacklist.length rules.whitelist.length)
    return rules

end Rules

end AddressGate
