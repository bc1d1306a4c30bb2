/-
  Rules as a document.

  * `quotation cs` is a text between quotes.  Quotes, backslashes and the
    characters below the space are escaped, five of these with a letter and the
    others as a unit of four hex digits; all else stays as it is;
  * `Rules.toDocument` is the object of both lists, without white space.
-/
import AddressGate.Document.Quotation

namespace AddressGate

namespace Document

/-- The four hex digits of a number, in lower case. -/
def unitText (n : Nat) : List Char :=
  [n / 0x1000, n / 0x100, n / 0x10, n].map fun d => Nat.digitChar (d % 0x10)

/-- A character as it is written between quotes. -/
def escape (c : Char) : List Char :=
  match c with
  | '\"' => ['\\', '\"']
  | '\\' => ['\\', '\\']
  | '\x08' => ['\\', 'b']
  | '\x0c' => ['\\', 'f']
  | '\n' => ['\\', 'n']
  | '\r' => ['\\', 'r']
  | '\t' => ['\\', 't']
  | c => if isControl c then '\\' :: 'u' :: unitText c.toNat else [c]

/-- A text between quotes. -/
def quotation (cs : List Char) : List Char := '\"' :: cs.flatMap escape ++ ['\"']

/-- A list of texts. -/
def textList (ss : List String) : List Char :=
  '[' :: [','].intercalate (ss.map fun s => quotation s.toList) ++ [']']

/-- A list of the rules as a member of an object. -/
def listMember (r : Rules) (list : ListName) : List Char :=
  quotation list.text.toList ++ ':' :: textList (r.entries list)

end Document

/-- The rules as a document. -/
def Rules.toDocument (r : Rules) : String :=
  String.ofList <|
    '\x7b' :: [','].intercalate (ListName.all.map (Document.listMember r)) ++ ['\x7d']

end AddressGate
