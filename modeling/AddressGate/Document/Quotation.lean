/-
  Texts in a document, character by character behind the opening quote.

  * `Quotation` reads a text whose characters matter.  Behind a backslash stand
    a quote, a backslash, a slash, one of the letters `b f n r t`, or `u` with
    the four hex digits of a UTF-16 unit; a leading surrogate has to be
    followed by the escape of a trailing one;
  * `SkippedQuotation` reads a text that is ignored.  It does not look at which
    units are surrogates.

  The four digits of a unit are counted in bytes: a character of several bytes
  among them spoils the escape once the fourth byte is read.
-/
import AddressGate.Document.Fault
import AddressGate.Text.Number

namespace AddressGate.Document

/-- The character that a letter behind a backslash stands for. -/
def escaped? : Char → Option Char
  | '\"' => some '\"'
  | '\\' => some '\\'
  | '/' => some '/'
  | 'b' => some '\x08'
  | 'f' => some '\x0c'
  | 'n' => some '\n'
  | 'r' => some '\r'
  | 't' => some '\t'
  | _ => none

/-- Characters that have to be escaped in a text. -/
def isControl (c : Char) : Bool := c.toNat < 0x20

/-- The leading surrogates of UTF-16. -/
def isLeading (unit : Nat) : Bool := 0xD800 ≤ unit && unit ≤ 0xDBFF

/-- The trailing surrogates of UTF-16. -/
def isTrailing (unit : Nat) : Bool := 0xDC00 ≤ unit && unit ≤ 0xDFFF

/-- The character of a leading and a trailing surrogate. -/
def surrogatePair (leading trailing : Nat) : Char :=
  Char.ofNat (0x10000 + (leading - 0xD800) * 0x400 + (trailing - 0xDC00))

/-! ## The digits of a unit -/

/-- The digits of a unit read so far. -/
structure UnitDigits where
  /-- How many bytes were read. -/
  bytes : Nat
  /-- The value of the digits, unless some character was none. -/
  value? : Option Nat
  deriving DecidableEq, Repr

/-- What a character does to the digits of a unit. -/
inductive UnitStep where
  | more (digits : UnitDigits)
  | unit (value : Nat)
  | invalid (f : Fault)
  deriving DecidableEq, Repr

namespace UnitDigits

/-- No digits. -/
def start : UnitDigits := ⟨0, some 0⟩

/-- Reads one more character. -/
def step (u : UnitDigits) (c : Char) : UnitStep :=
  let bytes := u.bytes + c.utf8Size
  let value? := u.value?.bind fun v => (Text.hexValue? c).map (16 * v + ·)
  if bytes < 4 then .more ⟨bytes, value?⟩
  else match value? with
    | some v => .unit v
    | none => .invalid ⟨.invalidEscape, 4 - u.bytes⟩

end UnitDigits

/-! ## Texts that matter -/

/-- Where the reader is within a text. -/
inductive Escape where
  /-- Between two characters. -/
  | outside
  /-- Behind a backslash. -/
  | backslash
  /-- Within the digits of a unit; the leading surrogate before it. -/
  | unit (leading? : Option Nat) (digits : UnitDigits)
  /-- Behind a leading surrogate, where a backslash is due. -/
  | pair (leading : Nat)
  /-- Behind a leading surrogate and a backslash, where `u` is due. -/
  | pairBackslash (leading : Nat)
  deriving DecidableEq, Repr

/-- A text read in part. -/
structure Quotation where
  escape : Escape
  /-- The characters read, the last one first. -/
  reversed : List Char
  deriving DecidableEq, Repr

/-- What a character does to a text. -/
inductive QuotationStep where
  | more (q : Quotation)
  /-- The closing quote: the characters of the text. -/
  | closed (cs : List Char)
  deriving DecidableEq, Repr

namespace Quotation

/-- The text behind its opening quote. -/
def start : Quotation := ⟨.outside, []⟩

/-- The text with one more character, outside of escapes. -/
def push (q : Quotation) (c : Char) : Quotation := ⟨.outside, c :: q.reversed⟩

/-- The text within another escape. -/
def within (q : Quotation) (e : Escape) : Quotation := { q with escape := e }

/-- The text behind the digits of a unit. -/
def unit (q : Quotation) (leading? : Option Nat) (v : Nat) : Except Fault Quotation :=
  match leading? with
  | none =>
    if isTrailing v then .error Cause.loneSurrogate.behind
    else if isLeading v then .ok (q.within (.pair v))
    else .ok (q.push (Char.ofNat v))
  | some leading =>
    if isTrailing v then .ok (q.push (surrogatePair leading v))
    else .error Cause.loneSurrogate.behind

/-- Reads one more character. -/
def step (q : Quotation) (c : Char) : Except Fault QuotationStep :=
  match q.escape with
  | .outside =>
    if c = '\"' then .ok (.closed q.reversed.reverse)
    else if c = '\\' then .ok (.more (q.within .backslash))
    else if isControl c then .error Cause.controlCharacter.behind
    else .ok (.more (q.push c))
  | .backslash =>
    if c = 'u' then .ok (.more (q.within (.unit none .start)))
    else match escaped? c with
      | some d => .ok (.more (q.push d))
      | none => .error Cause.invalidEscape.behind
  | .unit leading? digits =>
    match digits.step c with
    | .more digits => .ok (.more (q.within (.unit leading? digits)))
    | .unit v => (q.unit leading? v).map .more
    | .invalid f => .error f
  | .pair leading =>
    if c = '\\' then .ok (.more (q.within (.pairBackslash leading)))
    else .error Cause.unpairedSurrogate.behind
  | .pairBackslash leading =>
    if c = 'u' then .ok (.more (q.within (.unit (some leading) .start)))
    else .error Cause.unpairedSurrogate.behind

end Quotation

/-! ## Texts that are ignored -/

/-- Where the reader is within an ignored text. -/
inductive SkippedQuotation where
  | outside
  | backslash
  | unit (digits : UnitDigits)
  deriving DecidableEq, Repr

namespace SkippedQuotation

/-- Reads one more character; `none` is the closing quote. -/
def step (q : SkippedQuotation) (c : Char) : Except Fault (Option SkippedQuotation) :=
  match q with
  | outside =>
    if c = '\"' then .ok none
    else if c = '\\' then .ok (some backslash)
    else if isControl c then .error Cause.controlCharacter.before
    else .ok (some outside)
  | backslash =>
    if c = 'u' then .ok (some (unit .start))
    else if (escaped? c).isSome then .ok (some outside)
    else .error Cause.invalidEscape.behind
  | unit digits =>
    match digits.step c with
    | .more digits => .ok (some (unit digits))
    | .unit _ => .ok (some outside)
    | .invalid f => .error f

end SkippedQuotation

end AddressGate.Document
