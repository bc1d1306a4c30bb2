/-
  The shortest decimal that reads back as a given binary number.

  * A `Binary` is a positive number of a floating point format together with
    the gap to its neighbours, so it stands for the interval of all reals that
    round to it (with its ends if the significand is even);
  * `Binary.nearestAt? b e` is the multiple of `10 ^ e` in that interval that
    is nearest to the number, the even one of two equally near;
  * `Binary.shortest?` takes the coarsest power of ten that has such a
    multiple, hence the fewest digits;
  * `Binary.ofFloat?` is the number of a positive double.

  All arithmetic is exact, in natural numbers.
-/

namespace AddressGate

/-- The number `digits * 10 ^ exponent`. -/
structure Decimal where
  digits : Nat
  exponent : Int
  deriving DecidableEq, Repr

/-- The positive number `significand * 2 ^ exponent` of a format in which the
    next number is `2 ^ exponent` greater; the one before is as far away, or
    half as far if the number is `narrow` below. -/
structure Binary where
  significand : Nat
  exponent : Int
  narrow : Bool
  deriving DecidableEq, Repr

namespace Binary

/-- The number in quarters of the gap above it. -/
def quarters (b : Binary) : Nat := 4 * b.significand

/-- The lower end of the interval, in quarters. -/
def lower (b : Binary) : Nat := b.quarters - if b.narrow then 1 else 2

/-- The upper end of the interval, in quarters. -/
def upper (b : Binary) : Nat := b.quarters + 2

/-- The numerator of a quarter, measured in `10 ^ e`. -/
def quarterNum (b : Binary) (e : Int) : Nat :=
  Nat.pow 2 (b.exponent - 2).toNat * Nat.pow 10 (-e).toNat

/-- The denominator of a quarter, measured in `10 ^ e`. -/
def quarterDen (b : Binary) (e : Int) : Nat :=
  Nat.pow 2 (2 - b.exponent).toNat * Nat.pow 10 e.toNat

/-- `d * 10 ^ e` rounds to the number. -/
def covers (b : Binary) (e : Int) (d : Nat) : Bool :=
  let low := b.lower * b.quarterNum e
  let high := b.upper * b.quarterNum e
  let x := d * b.quarterDen e
  if b.significand % 2 = 0 then low ≤ x && x ≤ high else low < x && x < high

/-- The multiple of `10 ^ e` below the number or above it, whichever is
    nearer; the even one if both are as near. -/
def nearer (b : Binary) (e : Int) (below : Nat) : Nat :=
  let rest := b.quarters * b.quarterNum e - below * b.quarterDen e
  match compare (2 * rest) (b.quarterDen e) with
  | .lt => below
  | .gt => below + 1
  | .eq => if below % 2 = 0 then below else below + 1

/-- The multiple of `10 ^ e` that rounds to the number and is nearest to it. -/
def nearestAt? (b : Binary) (e : Int) : Option Nat :=
  let below := b.quarters * b.quarterNum e / b.quarterDen e
  match b.covers e below, b.covers e (below + 1) with
  | true, true => some (b.nearer e below)
  | true, false => some below
  | false, true => some (below + 1)
  | false, false => none

/-- The powers of ten from above the largest double to below the smallest. -/
def exponents : List Int := (List.range 660).map fun i => 320 - Int.ofNat i

/-- The shortest decimal that rounds to the number. -/
def shortest? (b : Binary) : Option Decimal :=
  exponents.findSome? fun e => (b.nearestAt? e).map fun d => ⟨d, e⟩

/-- The leading bit of a double, which is not stored. -/
def hiddenBit : Nat := 1 <<< 52

/-- The number of a positive finite double. -/
def ofFloat? (x : Float) : Option Binary :=
  let bits := x.toBits.toNat
  let biased := bits / hiddenBit
  let fraction := bits % hiddenBit
  if bits = 0 ∨ 0x7FF ≤ biased then none
  else if biased = 0 then some ⟨fraction, -1074, false⟩
  else some ⟨hiddenBit + fraction, Int.ofNat biased - 1075, fraction = 0 ∧ 1 < biased⟩

end Binary

end AddressGate
