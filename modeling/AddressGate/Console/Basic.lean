/-
  The console, on which events are shown.

  * `Console.install` sets the console up, once: a second try is an error and
    changes nothing.  A new console reports that it is ready;
  * `Console.lines` are the lines that it shows of some events.
-/
import AddressGate.Console.Filter
import AddressGate.Console.Line
import AddressGate.Reported

namespace AddressGate

/-- How lines are written. -/
inductive LineStyle where
  | plain
  | pretty
  deriving DecidableEq, Repr

/-- A console shows the events that its filter admits. -/
structure Console where
  style : LineStyle
  filter : Filter
  deriving DecidableEq, Repr

/-- Why no console can be set up. -/
inductive ConsoleError where
  | alreadyInstalled
  deriving DecidableEq, Repr

namespace Console

/-- Sets up a console with the filter that a text asks for, unless there is a
    console. -/
def install (installed : Option Console) (style : LineStyle) (directives : Option String) :
    Except ConsoleError (Reported Event Console) :=
  match installed with
  | some _ => .error .alreadyInstalled
  | none => .ok ⟨⟨style, Filter.ofText? directives⟩, [.consoleReady]⟩

/-- The line of an event; `time` is when it is shown. -/
def line (c : Console) (time : String) (e : Event) : String :=
  String.ofList <| match c.style with
    | .plain => e.record.plainLine
    | .pretty => e.record.prettyLine time

/-- The lines that are shown of some events, all at one time. -/
def lines (c : Console) (time : String) (es : List Event) : List String :=
  (es.filter c.filter.admits).map (c.line time)

/-- A console that admits everything shows a line for each event. -/
theorem lines_eq_map (c : Console) (hc : ∀ e, c.filter.admits e = true) (time : String)
    (es : List Event) : c.lines time es = es.map (c.line time) := by
  rw [lines, List.filter_eq_self.2 fun e _ => hc e]

end Console

end AddressGate
