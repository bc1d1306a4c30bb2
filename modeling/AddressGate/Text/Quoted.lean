/-
  Text in quotes, on one line.

  * `quoted cs` stands between double quotes.  A quote and a backslash get a
    backslash before them, four controls have a letter or digit of their own,
    every other invisible character is its code point in lower case hex
    between braces, and all else stays as it is;
  * `rawQuoted bytes` is the same for bytes that ought to be UTF-8: a byte that
    begins no character is `\x` and two upper case hex digits.
-/
import AddressGate.Text.Invisible

namespace AddressGate.Text

/-- A character by its code point. -/
def codePoint (c : Char) : List Char :=
  ['\\', 'u', '\x7b'] ++ Nat.toDigits 16 c.toNat ++ ['\x7d']

/-- A character as it is written between the quotes. -/
def quotedChar (c : Char) : List Char :=
  match c with
  | '\"' => ['\\', '\"']
  | '\\' => ['\\', '\\']
  | '\n' => ['\\', 'n']
  | '\r' => ['\\', 'r']
  | '\t' => ['\\', 't']
  | '\x00' => ['\\', '0']
  | c => if isInvisible c then codePoint c else [c]

/-- The text between double quotes. -/
def quoted (cs : List Char) : List Char :=
  '\"' :: cs.flatMap quotedChar ++ ['\"']

/-! ## Bytes -/

/-- A byte that begins no character. -/
def strayByte (b : UInt8) : List Char :=
  ['\\', 'x', (Nat.digitChar (b.toNat / 16)).toUpper, (Nat.digitChar (b.toNat % 16)).toUpper]

/-- The character that the bytes begin with, in UTF-8. -/
def firstChar? (bytes : List UInt8) : Option Char :=
  (bytes.take 4).toByteArray.utf8DecodeChar? 0

/-- Bytes as they are written between the quotes. -/
def quotedBytes : List UInt8 → List Char
  | [] => []
  | b :: bs =>
    match firstChar? (b :: bs) with
    | some c => quotedChar c ++ quotedBytes ((b :: bs).drop c.utf8Size)
    | none => strayByte b ++ quotedBytes bs
termination_by bytes => bytes.length
decreasing_by
  · have := c.utf8Size_pos
    simp only [List.length_drop, List.length_cons]
    omega
  · simp

/-- The bytes between double quotes. -/
def rawQuoted (bytes : List UInt8) : List Char :=
  '\"' :: quotedBytes bytes ++ ['\"']

end AddressGate.Text
