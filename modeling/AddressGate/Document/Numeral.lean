/-
  The values of numbers in a document.

  * An `Amount` is a significand of 64 bits, a power of ten, and the power
    written behind `e`.  Digits before the point that no longer fit into the
    significand count for the power of ten only, digits behind the point not at
    all.  A written power beyond 31 bits is not read to its end: it makes the
    number too great, or vanish;
  * a `Numeral` is a number read in part, and `Numeral.value` its value.  A
    number without a point and a power is an integer as long as it fits into
    64 bits; any other is a double, as precise as one multiplication or
    division by a power of ten makes it.
-/
import AddressGate.Document.Number

namespace AddressGate.Document

/-- The greatest significand. -/
def maxSignificand : Nat := UInt64.size - 1

/-- The greatest power that is read. -/
def maxPower : Nat := 0x7FFFFFFF

/-- The magnitude of the least integer. -/
def maxNegative : Nat := 0x8000000000000000

/-! ## Doubles -/

/-- The greatest power of ten that is a double. -/
def maxFactor : Int := 308

/-- A power of ten as a double. -/
def powerOfTen (n : Nat) : Float := Float.ofScientific 1 false n

/-- `x * 10 ^ e`.  A power below all doubles is split, and one above them is
    too great for any `x` but zero. -/
def scaled (x : Float) (e : Int) : Except Cause Float :=
  if maxFactor < e then if x == 0 then .ok x else .error .numberOutOfRange
  else if 0 ≤ e then
    let y := x * powerOfTen e.toNat
    if y.isInf then .error .numberOutOfRange else .ok y
  else if -maxFactor ≤ e then .ok (x / powerOfTen (-e).toNat)
  else if x == 0 then .ok x
  else scaled (x / powerOfTen maxFactor.toNat) (e + maxFactor)
termination_by (-e).toNat
decreasing_by
  simp only [maxFactor] at *
  omega

/-! ## Amounts -/

/-- The magnitude of a number read in part. -/
structure Amount where
  significand : Nat
  /-- A digit did not fit into the significand. -/
  full : Bool
  /-- The power of ten without the one that is written. -/
  exponent : Int
  /-- The written power is negative. -/
  negativePower : Bool
  /-- The written power, unless it does not fit. -/
  power? : Option Nat
  deriving DecidableEq, Repr

namespace Amount

/-- No digits. -/
def zero : Amount := ⟨0, false, 0, false, some 0⟩

/-- One more digit in the significand, if it fits. -/
def append? (a : Amount) (d : Nat) : Option Amount :=
  let s := 10 * a.significand + d
  if ¬ a.full ∧ s ≤ maxSignificand then some { a with significand := s } else none

/-- A digit before the point. -/
def wholeDigit (a : Amount) (d : Nat) : Amount :=
  match a.append? d with
  | some b => b
  | none => { a with full := true, exponent := a.exponent + 1 }

/-- A digit behind the point. -/
def fractionDigit (a : Amount) (d : Nat) : Amount :=
  match a.append? d with
  | some b => { b with exponent := b.exponent - 1 }
  | none => { a with full := true }

/-- A digit of the written power. -/
def powerDigit (a : Amount) (d : Nat) : Except Fault Amount :=
  match a.power? with
  | none => .ok a
  | some p =>
    if 10 * p + d ≤ maxPower then .ok { a with power? := some (10 * p + d) }
    else if a.significand ≠ 0 ∧ ¬ a.negativePower then .error Cause.numberOutOfRange.behind
    else .ok { a with power? := none }

/-- Reads one more character, of the given part. -/
def read (a : Amount) (part : NumberPart) (c : Char) : Except Fault Amount :=
  match part, Text.digitValue? 10 c with
  | .zero, some d | .whole, some d => .ok (a.wholeDigit d)
  | .fraction, some d => .ok (a.fractionDigit d)
  | .power, some d => a.powerDigit d
  | .point, _ => .ok { a with full := false }
  | .markSign, _ => .ok { a with negativePower := c = '-' }
  | _, _ => .ok a

/-- The amount as a double. -/
def toFloat (a : Amount) : Except Cause Float :=
  match a.power? with
  | none => .ok 0
  | some p =>
    scaled (Float.ofNat a.significand)
      (a.exponent + if a.negativePower then -Int.ofNat p else Int.ofNat p)

end Amount

/-! ## Numerals -/

/-- A number read in part. -/
structure Numeral where
  negative : Bool
  part : NumberPart
  amount : Amount
  deriving DecidableEq, Repr

namespace Numeral

/-- The number behind its first character. -/
def start? (c : Char) : Option Numeral :=
  (NumberPart.start? c).map fun part =>
    ⟨part = .minus, part, Amount.zero.wholeDigit ((Text.digitValue? 10 c).getD 0)⟩

/-- Reads one more character; `none` if the number ends before it. -/
def step (n : Numeral) (c : Char) : Except Fault (Option Numeral) := do
  match ← n.part.step c with
  | none => return none
  | some part => return some { n with part := part, amount := ← n.amount.read part c }

/-- The number is written as an integer and fits. -/
def integer? (n : Numeral) : Option Int :=
  let s := n.amount.significand
  if n.part ≠ .zero ∧ n.part ≠ .whole ∨ n.amount.full then none
  else if ¬ n.negative then some (Int.ofNat s)
  else if s ≠ 0 ∧ s ≤ maxNegative then some (-Int.ofNat s)
  else none

/-- The value of the number, if it ends here. -/
def value (n : Numeral) : Except Cause Found :=
  if n.part.needsDigit then .error .endInValue
  else match n.integer? with
    | some i => .ok (.integer i)
    | none => do
      let x ← n.amount.toFloat
      return .decimal (if n.negative then -x else x)

end Numeral

end AddressGate.Document
