/-
  A running program, and what is asked of it.

  * `Call` lists the calls: setting up the console, loading and editing the
    rules, asking about them, deciding about requests, and matching;
  * `Session.perform` answers a call, in a state of the program, with the next
    state and the events reported; loading that fails reports nothing and changes
    nothing (`perform_document_of_error`, `perform_environment_of_error`);
  * `Session.run` makes calls one after another.  It records for each its
    answer, the events and the lines that the console shows of them; without a
    console nothing is shown;
  * `Session.started` is a run whose first call sets up the console.
-/
import AddressGate.Console.Basic
import AddressGate.Document.Loading
import AddressGate.Document.Writer
import AddressGate.Rules.Environment
import AddressGate.Rules.Evaluation

namespace AddressGate

/-- Something that is asked of the program. -/
inductive Call where
  /-- Sets up the console. -/
  | install (style : LineStyle) (directives : Option String)
  /-- Takes rules as they are. -/
  | replace (rules : Rules)
  /-- Loads two comma-separated lists. -/
  | load (blacklist whitelist : String)
  /-- Loads a document. -/
  | document (text : String)
  /-- Loads the variables of the environment. -/
  | environment (value? : String → Option ByteArray)
  /-- Adds an entry to a list. -/
  | push (list : ListName) (entry : String)
  /-- Drops the entries of a list. -/
  | clear (list : ListName)
  /-- Asks if there are no entries. -/
  | isEmpty
  /-- Asks if the rules are these. -/
  | equals (rules : Rules)
  /-- Asks for the rules as a document. -/
  | toDocument
  /-- Asks for a decision about a remote address in text form. -/
  | evaluate (remote : String)
  /-- Asks for a decision about the address of a connection. -/
  | evaluateAddress (remote : Option Address)
  /-- Asks if a candidate matches some pattern. -/
  | anyAccepts (candidate : String) (patterns : List String)
  /-- Asks if a subnet holds a candidate. -/
  | holds (subnet candidate : String)

/-- The answer to a call. -/
inductive Answer where
  | installed
  | notInstalled (e : ConsoleError)
  | rules (r : Rules)
  | noDocument (e : DocumentError)
  | noEnvironment (e : EnvironmentError)
  | truth (b : Bool)
  | document (text : String)
  | outcome (o : Outcome)
  deriving DecidableEq, Repr

/-- A call that was answered, when, and the events reported on the way. -/
structure Answered where
  time : String
  answer : Answer
  events : List Event
  deriving DecidableEq, Repr

/-- An answered call with the lines that were shown. -/
structure Shown extends Answered where
  lines : List String
  deriving DecidableEq, Repr

/-- The state of the program. -/
structure Session where
  rules : Rules
  console : Option Console
  deriving DecidableEq, Repr

namespace Session

/-- The program has no rules and no console at first. -/
def initial : Session := ⟨.empty, none⟩

/-- The rules become those of the program. -/
def adopt (s : Session) (r : Reported Event Rules) : Reported Event (Session × Answer) := do
  let rules ← r
  return ({ s with rules }, .rules rules)

/-- Answers a call. -/
def perform (s : Session) : Call → Reported Event (Session × Answer)
  | .install style directives =>
    match Console.install s.console style directives with
    | .ok r => do
      let console ← r
      return ({ s with console }, .installed)
    | .error e => return (s, .notInstalled e)
  | .replace rules => s.adopt (pure rules)
  | .load blacklist whitelist => s.adopt (Rules.load blacklist whitelist)
  | .document text =>
    match Rules.ofDocument text with
    | .ok r => s.adopt r
    | .error e => return (s, .noDocument e)
  | .environment value? =>
    match Rules.ofEnvironment value? with
    | .ok r => s.adopt r
    | .error e => return (s, .noEnvironment e)
  | .push list entry => s.adopt (pure (s.rules.push list entry))
  | .clear list => s.adopt (pure (s.rules.clear list))
  | .isEmpty => return (s, .truth s.rules.isEmpty)
  | .equals rules => return (s, .truth (s.rules = rules))
  | .toDocument => return (s, .document s.rules.toDocument)
  | .evaluate remote => return (s, .outcome (← s.rules.evaluate remote))
  | .evaluateAddress remote => return (s, .outcome (← s.rules.evaluateAddress remote))
  | .anyAccepts candidate patterns =>
    return (s, .truth (← (Pattern.anyAccepts candidate patterns).mapEvents Event.unreadable))
  | .holds subnet candidate =>
    return (s, .truth (← (Subnet.holds subnet candidate).mapEvents Event.unreadable))

section
variable (s : Session)

theorem adopt_eq (r : Reported Event Rules) :
    s.adopt r = ⟨({ s with rules := r.result }, .rules r.result), r.events⟩ :=
  congrArg (Reported.mk _) (List.append_nil r.events)

theorem perform_document_of_ok {text : String} {l : Reported Event Rules}
    (h : Rules.ofDocument text = .ok l) :
    s.perform (.document text) =
      ⟨({ s with rules := l.result }, .rules l.result), l.events⟩ := by
  simp only [perform, h, adopt_eq]

/-- A document that is refused reports nothing and changes nothing. -/
theorem perform_document_of_error {text : String} {e : DocumentError}
    (h : Rules.ofDocument text = .error e) :
    s.perform (.document text) = ⟨(s, .noDocument e), []⟩ := by
  simp only [perform, h]
  rfl

theorem perform_environment_of_ok {value? : String → Option ByteArray} {l : Reported Event Rules}
    (h : Rules.ofEnvironment value? = .ok l) :
    s.perform (.environment value?) =
      ⟨({ s with rules := l.result }, .rules l.result), l.events⟩ := by
  simp only [perform, h, adopt_eq]

/-- Variables that are refused report nothing and change nothing. -/
theorem perform_environment_of_error {value? : String → Option ByteArray} {e : EnvironmentError}
    (h : Rules.ofEnvironment value? = .error e) :
    s.perform (.environment value?) = ⟨(s, .noEnvironment e), []⟩ := by
  simp only [perform, h]
  rfl

end

/-- The lines that are shown of some events. -/
def lines (s : Session) (time : String) (es : List Event) : List String :=
  s.console.elim [] fun c => c.lines time es

/-- Makes a call.  What is reported while the console is set up is shown. -/
def step (s : Session) (time : String) (call : Call) : Session × Shown :=
  let r := s.perform call
  (r.result.1, ⟨⟨time, r.result.2, r.events⟩, r.result.1.lines time r.events⟩)

/-- Makes calls at the given times, in order. -/
def run (s : Session) : List (String × Call) → List Shown
  | [] => []
  | (time, call) :: calls =>
    let (next, shown) := s.step time call
    shown :: next.run calls

/-- A run that sets up the console first. -/
def started (style : LineStyle) (directives : Option String) (time : String)
    (calls : List (String × Call)) : List Shown :=
  initial.run ((time, .install style directives) :: calls)

end Session

end AddressGate
