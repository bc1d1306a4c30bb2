/-
  Positions in a text: lines from one on, and the bytes of the line before the
  position.
-/

namespace AddressGate.Document

/-- A position in a text. -/
structure Position where
  line : Nat
  column : Nat
  deriving DecidableEq, Repr

namespace Position

/-- The beginning of a text. -/
def start : Position := ⟨1, 0⟩

/-- The position some bytes behind `p`, where the text goes on with the
    characters. -/
def after (p : Position) (bytes : Nat) : List Char → Position
  | [] => p
  | c :: cs =>
    if bytes < c.utf8Size then ⟨p.line, p.column + bytes⟩
    else if c = '\n' then after ⟨p.line + 1, 0⟩ (bytes - c.utf8Size) cs
    else after ⟨p.line, p.column + c.utf8Size⟩ (bytes - c.utf8Size) cs

end Position

end AddressGate.Document
