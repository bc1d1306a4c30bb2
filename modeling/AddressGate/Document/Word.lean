/-
  White space and the three words of a document.

  A word is known by its first character; what is left of it has to follow
  character by character.
-/
import AddressGate.Document.Fault

namespace AddressGate.Document

/-- The characters between the parts of a document. -/
def isSpace (c : Char) : Bool := c == ' ' || c == '\n' || c == '\t' || c == '\r'

/-- What is left of the word that begins with a character, and its value. -/
def word? : Char → Option (List Char × Found)
  | 'n' => some ("ull".toList, .null)
  | 't' => some ("rue".toList, .boolean true)
  | 'f' => some ("alse".toList, .boolean false)
  | _ => none

/-- Reads one more character of a word of which `rest` is left. -/
def wordStep (rest : List Char) (c : Char) : Except Fault (List Char) :=
  if rest.head? = some c then .ok rest.tail else .error Cause.expectedWord.behind

end AddressGate.Document
