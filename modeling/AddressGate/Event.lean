/-
  What the rules and the console report.

  * `Event` lists everything that is ever reported, with the data that belongs
    to it;
  * `Event.record` is what a log shows of an event: how important it is, which
    part of the program it comes from, a fixed message, and named values.
-/
import AddressGate.Rules.Basic
import AddressGate.Subnet

namespace AddressGate

/-- Why a request is denied. -/
inductive Denial where
  /-- The remote address matches the blacklist. -/
  | blacklisted (remote : String)
  /-- There is a whitelist and the remote address does not match it. -/
  | notWhitelisted (remote : String)
  /-- There is a whitelist and the remote address is unknown. -/
  | unknownRemote
  deriving DecidableEq, Repr

/-- Something that is reported. -/
inductive Event where
  /-- The console shows events from now on. -/
  | consoleReady
  /-- Something could not be read while matching. -/
  | unreadable (d : Diagnostic)
  /-- An entry has a slash and is no subnet specifier, so it never matches. -/
  | malformedEntry (list : ListName) (entry : String)
  /-- An entry is no address, so it matches itself alone. -/
  | verbatimEntry (list : ListName) (entry : String)
  /-- The rules were loaded; the numbers of their entries. -/
  | rulesLoaded (blacklist whitelist : Nat)
  /-- A request is denied. -/
  | requestDenied (d : Denial)
  deriving DecidableEq, Repr

/-- How important an event is. -/
inductive Level where
  | error
  | warn
  | info
  | debug
  | trace
  deriving DecidableEq, Repr

/-- The name of a level, in capitals. -/
def Level.text : Level → String
  | error => "ERROR"
  | warn => "WARN"
  | info => "INFO"
  | debug => "DEBUG"
  | trace => "TRACE"

/-- The place of a level on the scale from the important to the verbose. -/
def Level.verbosity : Level → Nat
  | error => 1
  | warn => 2
  | info => 3
  | debug => 4
  | trace => 5

/-- A value that a log shows. -/
inductive Value where
  | text (s : String)
  | count (n : Nat)
  deriving DecidableEq, Repr

/-- What a log shows of an event. -/
structure Record where
  level : Level
  /-- The part of the program that the event comes from. -/
  target : String
  message : String
  /-- Named values, in the order in which they are shown. -/
  fields : List (String × Value)
  deriving DecidableEq, Repr

namespace Event

/-- The console itself. -/
def consoleTarget : String := "goodies::logging"

/-- The matching of addresses. -/
def matchingTarget : String := "goodies::net::ip_matcher"

/-- The rules. -/
def rulesTarget : String := "goodies::web::request_rules"

/-- The values that a log shows of a denial. -/
def denialFields : Denial → List (String × Value)
  | .blacklisted remote => [("remote", .text remote), ("reason", .text "blacklisted")]
  | .notWhitelisted remote => [("remote", .text remote), ("reason", .text "not whitelisted")]
  | .unknownRemote => [("reason", .text "unknown remote address")]

/-- What a log shows of an event. -/
def record : Event → Record
  | consoleReady =>
    ⟨.info, consoleTarget, "Tracing initialized successfully [reporting to console only]", []⟩
  | unreadable (.malformedPattern pattern) =>
    ⟨.debug, matchingTarget, "Ignoring malformed subnet pattern", [("pattern", .text pattern)]⟩
  | unreadable (.malformedAddress address) =>
    ⟨.debug, matchingTarget, "Cannot parse address for subnet matching",
      [("address", .text address)]⟩
  | malformedEntry list entry =>
    ⟨.warn, rulesTarget, "Entry is a malformed subnet and will never match",
      [("list", .text list.text), ("entry", .text entry)]⟩
  | verbatimEntry list entry =>
    ⟨.warn, rulesTarget, "Entry is not an address and will only match verbatim",
      [("list", .text list.text), ("entry", .text entry)]⟩
  | rulesLoaded blacklist whitelist =>
    ⟨.info, rulesTarget, "Request rules loaded",
      [("blacklist", .count blacklist), ("whitelist", .count whitelist)]⟩
  | requestDenied d => ⟨.debug, rulesTarget, "Request denied", denialFields d⟩

end Event

end AddressGate
