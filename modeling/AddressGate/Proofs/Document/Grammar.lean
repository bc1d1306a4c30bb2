/-
  What a document may be, independently of how it is read.

  * A `Value` is what a document says: objects are sequences of members, so
    their order and repeated keys are kept, and a number is kept as it is
    written;
  * `Written v t`: the text `t` is one of the ways in which the value may be
    written.  Between the parts of a list or an object there may be white space,
    and every character of a text may be written as itself, by a letter behind a
    backslash, or by one or two units of UTF-16 in hex digits (`Spelled`).

  A document is an `Element`: a value with white space around it.
-/
import AddressGate.Document.Word
import AddressGate.Proofs.Number

namespace AddressGate.Document

/-! ## Texts -/

/-- The letters behind a backslash, and the characters that they stand for. -/
def letters : List (Char × Char) :=
  [('\"', '\"'), ('\\', '\\'), ('/', '/'), ('b', '\x08'), ('f', '\x0c'), ('n', '\n'), ('r', '\r'),
    ('t', '\t')]

/-- Four hex digits, in either case, of value `n`. -/
def IsUnit (ds : List Char) (n : Nat) : Prop := ds.length = 4 ∧ Text.number? 16 ds = some n

/-- The ways in which a character of a text may be written. -/
inductive Spelled : Char → List Char → Prop
  | raw {c : Char} (hq : c ≠ '\"') (hb : c ≠ '\\') (hc : 0x20 ≤ c.toNat) : Spelled c [c]
  | letter {c d : Char} (h : (d, c) ∈ letters) : Spelled c ['\\', d]
  | unit {c : Char} {ds : List Char} (h : IsUnit ds c.toNat) : Spelled c ('\\' :: 'u' :: ds)
  /-- A leading and a trailing surrogate, with ten bits of the character each. -/
  | pair {c : Char} {ds es : List Char} {hi lo : Nat} (hds : IsUnit ds (0xD800 + hi))
      (hes : IsUnit es (0xDC00 + lo)) (hhi : hi < 0x400) (hlo : lo < 0x400)
      (hc : c.toNat = 0x10000 + 0x400 * hi + lo) :
      Spelled c ('\\' :: 'u' :: ds ++ '\\' :: 'u' :: es)

/-- The ways in which a row of characters may be written. -/
inductive Letters : List Char → List Char → Prop
  | nil : Letters [] []
  | cons {c : Char} {cs t ts : List Char} (h : Spelled c t) (hs : Letters cs ts) :
      Letters (c :: cs) (t ++ ts)

/-! ## Numbers -/

/-- The digits before the point; a leading zero stands alone. -/
def IsWhole (cs : List Char) : Prop := cs = ['0'] ∨ (Text.IsDigits cs ∧ cs.head? ≠ some '0')

/-- The point and the digits behind it, if any. -/
def IsFraction (cs : List Char) : Prop := cs = [] ∨ ∃ ds, Text.IsDigits ds ∧ cs = '.' :: ds

/-- The power of ten behind `e`, if any. -/
def IsPower (cs : List Char) : Prop :=
  cs = [] ∨ ∃ e ∈ ['e', 'E'], ∃ sign ∈ [[], ['+'], ['-']], ∃ ds, Text.IsDigits ds ∧
    cs = e :: sign ++ ds

/-- A number as it is written. -/
structure NumberText where
  sign : List Char
  whole : List Char
  fraction : List Char
  power : List Char
  isSign : sign ∈ [[], ['-']]
  isWhole : IsWhole whole
  isFraction : IsFraction fraction
  isPower : IsPower power

/-- The characters of a number. -/
def NumberText.chars (n : NumberText) : List Char := n.sign ++ n.whole ++ n.fraction ++ n.power

/-! ## Values -/

/-- What a document says. -/
inductive Value where
  | null
  | boolean (b : Bool)
  | number (n : NumberText)
  | text (s : String)
  | list (vs : List Value)
  | object (ms : List (String × Value))

/-- A list of texts. -/
def Value.texts (ss : List String) : Value := .list (ss.map .text)

/-- Characters between the parts of a document. -/
def IsBlank (w : List Char) : Prop := ∀ c ∈ w, isSpace c = true

/-- A row of characters between quotes. -/
def inQuotes (cs : List Char) : List Char := '\"' :: cs ++ ['\"']

mutual

/-- The ways in which a value may be written. -/
inductive Written : Value → List Char → Prop
  | null : Written .null "null".toList
  | boolean (b : Bool) : Written (.boolean b) (toString b).toList
  | number (n : NumberText) : Written (.number n) n.chars
  | text {s : String} {t : List Char} (h : Letters s.toList t) : Written (.text s) (inQuotes t)
  | emptyList {w : List Char} (h : IsBlank w) : Written (.list []) ('[' :: w ++ [']'])
  | list {vs : List Value} {t : List Char} (h : Elements vs t) :
      Written (.list vs) ('[' :: t ++ [']'])
  | emptyObject {w : List Char} (h : IsBlank w) : Written (.object []) ('\x7b' :: w ++ ['\x7d'])
  | object {ms : List (String × Value)} {t : List Char} (h : Members ms t) :
      Written (.object ms) ('\x7b' :: t ++ ['\x7d'])

/-- A value with white space around it. -/
inductive Element : Value → List Char → Prop
  | mk {v : Value} {w t w' : List Char} (hw : IsBlank w) (h : Written v t) (hw' : IsBlank w') :
      Element v (w ++ t ++ w')

/-- Values with commas between them, at least one. -/
inductive Elements : List Value → List Char → Prop
  | last {v : Value} {t : List Char} (h : Element v t) : Elements [v] t
  | more {v : Value} {vs : List Value} {t ts : List Char} (h : Element v t)
      (hs : Elements vs ts) : Elements (v :: vs) (t ++ ',' :: ts)

/-- A key, a colon and a value, with white space around all of them. -/
inductive Member : String × Value → List Char → Prop
  | mk {k : String} {v : Value} {w q w' t : List Char} (hw : IsBlank w) (hk : Letters k.toList q)
      (hw' : IsBlank w') (h : Element v t) : Member (k, v) (w ++ inQuotes q ++ w' ++ ':' :: t)

/-- Members with commas between them, at least one. -/
inductive Members : List (String × Value) → List Char → Prop
  | last {m : String × Value} {t : List Char} (h : Member m t) : Members [m] t
  | more {m : String × Value} {ms : List (String × Value)} {t ts : List Char} (h : Member m t)
      (hs : Members ms ts) : Members (m :: ms) (t ++ ',' :: ts)

end

end AddressGate.Document
