/-
  Values that are ignored, character by character.

  Such a value may be any, nested to any depth, and has to be well-formed.  A
  `Skipped` value is what was read last, together with the brackets that are
  open around it, the innermost first.  After a comma the list or object has to
  go on.
-/
import AddressGate.Document.Number
import AddressGate.Document.Quotation
import AddressGate.Document.Word

namespace AddressGate.Document

/-- What brackets are around. -/
inductive Bracket where
  | list
  | object
  deriving DecidableEq, Repr

/-- The closing bracket. -/
def Bracket.closing : Bracket → Char
  | list => ']'
  | object => '\x7d'

/-- Neither a comma nor the closing bracket follows a value. -/
def Bracket.unclosed : Bracket → Cause
  | list => .expectedListEnd
  | object => .expectedObjectEnd

/-- The text ends within brackets. -/
def Bracket.atEnd : Bracket → Cause
  | list => .endInList
  | object => .endInObject

/-- Where the reader is within an ignored value. -/
inductive SkippedStage where
  /-- A value is due. -/
  | value
  /-- Behind an opening bracket that does not count as open yet. -/
  | opened (b : Bracket)
  /-- A key is due. -/
  | key
  | keyText (q : SkippedQuotation)
  | colon
  /-- Within a word of which `rest` is left. -/
  | word (rest : List Char)
  | number (part : NumberPart)
  | text (q : SkippedQuotation)
  /-- Behind a value. -/
  | after
  deriving DecidableEq, Repr

/-- An ignored value read in part. -/
structure Skipped where
  stage : SkippedStage
  /-- The open brackets, the innermost first. -/
  outer : List Bracket
  deriving DecidableEq, Repr

namespace Skipped

/-- Nothing read. -/
def start : Skipped := ⟨.value, []⟩

/-- The first character of a value within some brackets. -/
def begin (c : Char) (outer : List Bracket) : Except Fault Skipped :=
  if c = '\"' then .ok ⟨.text .outside, outer⟩
  else if c = '[' then .ok ⟨.opened .list, outer⟩
  else if c = '\x7b' then .ok ⟨.opened .object, outer⟩
  else match word? c, NumberPart.start? c with
    | some (rest, _), _ => .ok ⟨.word rest, outer⟩
    | none, some part => .ok ⟨.number part, outer⟩
    | none, none => .error Cause.expectedValue.behind

/-- The first character of a key of an object within some brackets. -/
def beginKey (c : Char) (outer : List Bracket) : Except Fault Skipped :=
  if c = '\"' then .ok ⟨.keyText .outside, .object :: outer⟩
  else .error Cause.keyNotText.behind

/-- A character behind a value; `none` if no brackets are open. -/
def proceed (c : Char) : List Bracket → Except Fault (Option Skipped)
  | [] => .ok none
  | b :: outer =>
    if isSpace c then .ok (some ⟨.after, b :: outer⟩)
    else if c = ',' then
      match b with
      | .list => .ok (some ⟨.value, .list :: outer⟩)
      | .object => .ok (some ⟨.key, outer⟩)
    else if c = b.closing then .ok (some ⟨.after, outer⟩)
    else .error b.unclosed.behind

/-- Reads one more character; `none` if the value ended before it. -/
def step (s : Skipped) (c : Char) : Except Fault (Option Skipped) := do
  match s.stage with
  | .value => if isSpace c then return some s else return some (← begin c s.outer)
  | .opened b =>
    if isSpace c then return some s
    else if c = b.closing then return some ⟨.after, s.outer⟩
    else match b with
      | .list => return some (← begin c (.list :: s.outer))
      | .object => return some (← beginKey c s.outer)
  | .key => if isSpace c then return some s else return some (← beginKey c s.outer)
  | .keyText q =>
    match ← q.step c with
    | some q => return some ⟨.keyText q, s.outer⟩
    | none => return some ⟨.colon, s.outer⟩
  | .colon =>
    if isSpace c then return some s
    else if c = ':' then return some ⟨.value, s.outer⟩
    else .error Cause.expectedColon.behind
  | .word rest =>
    match ← wordStep rest c with
    | [] => return some ⟨.after, s.outer⟩
    | rest => return some ⟨.word rest, s.outer⟩
  | .number part =>
    match ← part.step c with
    | some part => return some ⟨.number part, s.outer⟩
    | none => proceed c s.outer
  | .text q =>
    match ← q.step c with
    | some q => return some ⟨.text q, s.outer⟩
    | none => return some ⟨.after, s.outer⟩
  | .after => proceed c s.outer

/-- What is wrong with a document that ends within the value or behind it:
    at least the object that it is a member of is not closed. -/
def atEnd (s : Skipped) : Cause :=
  let unclosed := (s.outer.head?.getD .object).atEnd
  match s.stage with
  | .value | .word _ => .endInValue
  | .opened b => b.atEnd
  | .key | .colon => .endInObject
  | .keyText _ | .text _ => .endInText
  | .number part => if part.needsDigit then .invalidNumber else unclosed
  | .after => unclosed

end Skipped

end AddressGate.Document
