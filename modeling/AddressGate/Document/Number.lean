/-
  How numbers are written in a document, character by character.

  An optional minus sign is followed by digits, of which a zero stands alone;
  then by a point and digits, if any; then by `e`, an optional sign and digits,
  if any.  `NumberPart.step` tells which part a character belongs to, and
  whether the number ends before it: what follows a number does not matter
  here, unless a digit is due.
-/
import AddressGate.Document.Fault
import AddressGate.Text.Number

namespace AddressGate.Document

/-- The part of a number that was read last. -/
inductive NumberPart where
  /-- The minus sign; a digit is due. -/
  | minus
  /-- A leading zero. -/
  | zero
  /-- Digits before the point. -/
  | whole
  /-- The point; a digit is due. -/
  | point
  /-- Digits behind the point. -/
  | fraction
  /-- The letter `e`; a sign or a digit is due. -/
  | mark
  /-- The sign behind `e`; a digit is due. -/
  | markSign
  /-- Digits behind `e`. -/
  | power
  deriving DecidableEq, Repr

namespace NumberPart

/-- The part that a number begins with. -/
def start? (c : Char) : Option NumberPart :=
  if c = '-' then some minus
  else if c = '0' then some zero
  else if (Text.digitValue? 10 c).isSome then some whole
  else none

/-- A digit is due. -/
def needsDigit : NumberPart → Bool
  | minus | point | mark | markSign => true
  | zero | whole | fraction | power => false

/-- The part that a digit belongs to; behind a leading zero there is none. -/
def digit? (isZero : Bool) : NumberPart → Option NumberPart
  | minus => some (if isZero then zero else whole)
  | zero => none
  | whole => some whole
  | point | fraction => some fraction
  | mark | markSign | power => some power

/-- The part that another character belongs to. -/
def other? (c : Char) : NumberPart → Option NumberPart
  | zero | whole =>
    if c = '.' then some point else if c = 'e' ∨ c = 'E' then some mark else none
  | fraction => if c = 'e' ∨ c = 'E' then some mark else none
  | mark => if c = '+' ∨ c = '-' then some markSign else none
  | minus | point | markSign | power => none

/-- The part that a character belongs to; `none` if the number ends before
    it. -/
def step (p : NumberPart) (c : Char) : Except Fault (Option NumberPart) :=
  match Text.digitValue? 10 c with
  | some d =>
    match p.digit? (d = 0) with
    | some q => .ok (some q)
    | none => .error Cause.invalidNumber.behind
  | none =>
    match p.other? c with
    | some q => .ok (some q)
    | none => if p.needsDigit then .error Cause.invalidNumber.behind else .ok none

end NumberPart

end AddressGate.Document
