/-
  Values that are out of place.

  A scalar where something else is expected is read to its end before it is
  refused: its own faults come first, and the message shows its value.  Lists
  and objects are refused at their opening bracket.
-/
import AddressGate.Document.Numeral
import AddressGate.Document.Quotation
import AddressGate.Document.Word

namespace AddressGate.Document

/-- A scalar read in part. -/
inductive Scalar where
  /-- A word of which `rest` is left. -/
  | word (rest : List Char) (found : Found)
  | number (n : Numeral)
  | text (q : Quotation)
  deriving DecidableEq, Repr

namespace Scalar

/-- The scalar behind its first character. -/
def start? (c : Char) : Option Scalar :=
  if c = '\"' then some (text .start)
  else match word? c with
    | some (rest, found) => some (word rest found)
    | none => (Numeral.start? c).map number

/-- What is wrong with a number that ends here. -/
def numberCause (n : Numeral) (expected : Expected) : Cause :=
  match n.value with
  | .ok found => .mistyped found expected
  | .error cause => cause

/-- Reads one more character; a scalar that is complete is refused. -/
def step (s : Scalar) (expected : Expected) (c : Char) : Except Fault Scalar := do
  match s with
  | word rest found =>
    match ← wordStep rest c with
    | [] => .error (Cause.mistyped found expected).behind
    | rest => .ok (word rest found)
  | number n =>
    match ← n.step c with
    | some n => .ok (number n)
    | none => .error (numberCause n expected).before
  | text q =>
    match ← q.step c with
    | .more q => .ok (text q)
    | .closed cs => .error (Cause.mistyped (.text cs) expected).behind

/-- What is wrong with a document that ends within the scalar. -/
def atEnd (s : Scalar) (expected : Expected) : Cause :=
  match s with
  | word _ _ => .endInValue
  | number n => numberCause n expected
  | text _ => .endInText

end Scalar

/-- A value that begins with a character and is out of place. -/
def Expected.refuse (expected : Expected) (c : Char) : Except Fault Scalar :=
  if c = '[' then .error (Cause.mistyped .list expected).before
  else if c = '\x7b' then .error (Cause.mistyped .object expected).before
  else match Scalar.start? c with
    | some s => .ok s
    | none => .error Cause.expectedValue.behind

end AddressGate.Document
