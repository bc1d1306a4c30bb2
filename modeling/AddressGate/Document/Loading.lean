/-
  Rules from a document.

  * `State.run` reads a text to its end, or up to its first fault;
  * `Rules.ofDocument` reads the rules of a document with the warnings for
    their entries.  A document with a fault gives no rules and no warnings, but
    a `DocumentError`, which tells the cause and its position.
-/
import AddressGate.Document.Position
import AddressGate.Document.Reader
import AddressGate.Rules.Loading

namespace AddressGate

namespace Document

/-- A cause, and the number of bytes read when it was found. -/
structure Failure where
  cause : Cause
  offset : Nat
  deriving DecidableEq, Repr

/-- Reads characters in a state, behind `offset` bytes. -/
def State.run (s : State) (offset : Nat) : List Char → Except Failure Rules
  | [] => s.finish.mapError fun cause => ⟨cause, offset⟩
  | c :: cs =>
    match s.step c with
    | .ok t => t.run (offset + c.utf8Size) cs
    | .error f => .error ⟨f.cause, offset + f.ahead⟩

/-- Reads a document. -/
def read (cs : List Char) : Except Failure Rules := State.start.run 0 cs

end Document

/-- Why a document gives no rules. -/
structure DocumentError where
  cause : Document.Cause
  position : Document.Position
  deriving DecidableEq, Repr

/-- The wording of the error. -/
def DocumentError.message (e : DocumentError) : String :=
  "Failed to parse request rules: " ++ e.cause.message ++ " at line " ++
    toString e.position.line ++ " column " ++ toString e.position.column

/-- Reads the rules of a document. -/
def Rules.ofDocument (text : String) : Except DocumentError (Reported Event Rules) :=
  match Document.read text.toList with
  | .ok r => .ok r.withWarnings
  | .error f => .error ⟨f.cause, Document.Position.start.after f.offset text.toList⟩

end AddressGate
