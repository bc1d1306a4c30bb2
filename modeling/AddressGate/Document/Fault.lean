/-
  What can be wrong with a rules document.

  * `Cause` lists the causes, `Cause.message` gives their wording and
    `Cause.kind` sorts them: the text is not well-formed, it ends too early, or
    it is well-formed and says something else than rules;
  * a `Fault` is a cause found at a character, with the number of bytes that
    count as read from the beginning of that character on.  Mostly this is one:
    the position named is behind the first byte that does not fit.
-/
import AddressGate.Decimal.Layout
import AddressGate.Rules.Basic
import AddressGate.Text.Quoted

namespace AddressGate.Document

/-- A value that stands where another kind of value is expected. -/
inductive Found where
  | null
  | boolean (b : Bool)
  | integer (n : Int)
  | decimal (x : Float)
  | text (cs : List Char)
  | list
  | object
  deriving DecidableEq, Repr

/-- What is expected. -/
inductive Expected where
  | rules
  | list
  | entry
  deriving DecidableEq, Repr

/-- What is wrong with a document. -/
inductive Cause where
  /-- The text ends where a value is due, or within one. -/
  | endInValue
  | endInList
  | endInObject
  | endInText
  | expectedValue
  /-- A word begins like `true`, `false` or `null` and goes on otherwise. -/
  | expectedWord
  | expectedColon
  | expectedListEnd
  | expectedObjectEnd
  | keyNotText
  | trailingComma
  | trailingCharacters
  | invalidNumber
  | numberOutOfRange
  | invalidEscape
  | controlCharacter
  | loneSurrogate
  | unpairedSurrogate
  | mistyped (found : Found) (expected : Expected)
  | repeatedList (list : ListName)
  deriving DecidableEq, Repr

/-- The kinds of causes. -/
inductive Kind where
  | malformed
  | mismatched
  | truncated
  deriving DecidableEq, Repr

/-- The wording of a value that is out of place. -/
def Found.message : Found → String
  | null => "null"
  | boolean b => "boolean `" ++ toString b ++ "`"
  | integer n => "integer `" ++ toString n ++ "`"
  | decimal x => "floating point `" ++ floatText x ++ "`"
  | text cs => "string " ++ String.ofList (Text.quoted cs)
  | list => "sequence"
  | object => "map"

/-- The wording of what is expected. -/
def Expected.message : Expected → String
  | rules => "struct RequestRules"
  | list => "a sequence"
  | entry => "a string"

namespace Cause

/-- The wording of a cause. -/
def message : Cause → String
  | endInValue => "EOF while parsing a value"
  | endInList => "EOF while parsing a list"
  | endInObject => "EOF while parsing an object"
  | endInText => "EOF while parsing a string"
  | expectedValue => "expected value"
  | expectedWord => "expected ident"
  | expectedColon => "expected `:`"
  | expectedListEnd => "expected `,` or `]`"
  | expectedObjectEnd => "expected `,` or `\x7d`"
  | keyNotText => "key must be a string"
  | trailingComma => "trailing comma"
  | trailingCharacters => "trailing characters"
  | invalidNumber => "invalid number"
  | numberOutOfRange => "number out of range"
  | invalidEscape => "invalid escape"
  | controlCharacter => "control character (\\u0000-\\u001F) found while parsing a string"
  | loneSurrogate => "lone leading surrogate in hex escape"
  | unpairedSurrogate => "unexpected end of hex escape"
  | mistyped found expected =>
    "invalid type: " ++ found.message ++ ", expected " ++ expected.message
  | repeatedList list => "duplicate field `" ++ list.text ++ "`"

/-- The kind of a cause. -/
def kind : Cause → Kind
  | endInValue | endInList | endInObject | endInText => .truncated
  | mistyped _ _ | repeatedList _ => .mismatched
  | _ => .malformed

end Cause

/-- A cause found at a character. -/
structure Fault where
  cause : Cause
  /-- The bytes that count as read, from the beginning of the character on. -/
  ahead : Nat
  deriving DecidableEq, Repr

/-- A fault behind the first byte of the character. -/
def Cause.behind (cause : Cause) : Fault := ⟨cause, 1⟩

/-- A fault before the character. -/
def Cause.before (cause : Cause) : Fault := ⟨cause, 0⟩

end AddressGate.Document
