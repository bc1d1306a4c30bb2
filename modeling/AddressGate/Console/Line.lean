/-
  The lines of a log.

  Both styles show the level in a column of five, the target with a colon, the
  message and the fields as `name=value`, texts in quotes.

  * `Record.plainLine` is the line without colours;
  * `Record.prettyLine` has a dimmed time before it and sets the level in its
    colour, the target dimmed and the names of fields in italics, with escape
    sequences `ESC [ n m`.
-/
import AddressGate.Event
import AddressGate.Text.Quoted

namespace AddressGate

/-- A value as a line shows it. -/
def Value.shown : Value → List Char
  | text s => Text.quoted s.toList
  | count n => Nat.toDigits 10 n

/-- The level in a column of five. -/
def Level.column (l : Level) : List Char :=
  l.text.toList ++ List.replicate (5 - l.text.length) ' '

namespace Record

/-- A field, with a space before it. -/
def plainField (f : String × Value) : List Char :=
  ' ' :: f.1.toList ++ '=' :: f.2.shown

/-- The line without colours. -/
def plainLine (r : Record) : List Char :=
  r.level.column ++ ' ' :: r.target.toList ++ ": ".toList ++ r.message.toList ++
    r.fields.flatMap plainField

/-! ## Colours -/

/-- The escape sequence that selects a way of showing text. -/
def sequence (n : Nat) : List Char := '\x1b' :: '[' :: Nat.toDigits 10 n ++ ['m']

/-- Text shown in a selected way, and the usual way selected behind it. -/
def painted (n : Nat) (cs : List Char) : List Char := sequence n ++ cs ++ sequence 0

/-- The selection of dimmed text. -/
def dimmed : Nat := 2

/-- The selection of italics. -/
def italic : Nat := 3

/-- The selection of the colour of a level. -/
def colour : Level → Nat
  | .error => 31
  | .warn => 33
  | .info => 32
  | .debug => 34
  | .trace => 35

/-- A field in colours, with a space before it. -/
def prettyField (f : String × Value) : List Char :=
  ' ' :: painted italic f.1.toList ++ painted dimmed ['='] ++ f.2.shown

/-- The line in colours, behind the time. -/
def prettyLine (time : String) (r : Record) : List Char :=
  painted dimmed time.toList ++ ' ' :: painted (colour r.level) r.level.column ++
    ' ' :: painted dimmed (r.target.toList ++ [':']) ++ ' ' :: r.message.toList ++
    r.fields.flatMap prettyField

end Record

end AddressGate
