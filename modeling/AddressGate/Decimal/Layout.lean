/-
  Doubles as text.

  A double is written with the fewest digits that read back.  From `10 ^ -5` up
  to `10 ^ 16` it stands in plain form, with a point and at least one digit on
  either side of it; beyond, the leading digit stands before the point and a
  signed exponent follows.

  * `Decimal.text` lays out a positive decimal, `floatText` a finite double
    with its sign, also that of zero.
-/
import AddressGate.Decimal.Shortest

namespace AddressGate

namespace Decimal

/-- The position of the point counted from the first digit. -/
def pointAt (d : Decimal) : Int := (Nat.toDigits 10 d.digits).length + d.exponent

/-- Decimals with their point from here on stand in plain form. -/
def plainFrom : Int := -4

/-- Decimals with their point up to here stand in plain form. -/
def plainTo : Int := 16

/-- The decimal with a point and no exponent. -/
def plainText (d : Decimal) : List Char :=
  let ds := Nat.toDigits 10 d.digits
  if 0 ≤ d.exponent then ds ++ List.replicate d.exponent.toNat '0' ++ ['.', '0']
  else if 0 < d.pointAt then ds.take d.pointAt.toNat ++ '.' :: ds.drop d.pointAt.toNat
  else ['0', '.'] ++ List.replicate (-d.pointAt).toNat '0' ++ ds

/-- The decimal with its leading digit before the point and an exponent. -/
def scientificText (d : Decimal) : List Char :=
  let ds := Nat.toDigits 10 d.digits
  let e := d.pointAt - 1
  let tail := if ds.tail = [] then [] else '.' :: ds.tail
  ds.take 1 ++ tail ++ ['e', if e < 0 then '-' else '+'] ++ Nat.toDigits 10 e.natAbs

/-- A positive decimal. -/
def text (d : Decimal) : List Char :=
  if plainFrom ≤ d.pointAt ∧ d.pointAt ≤ plainTo then d.plainText else d.scientificText

end Decimal

/-- A finite double without its sign. -/
def magnitudeText (x : Float) : List Char :=
  match (Binary.ofFloat? x.abs).bind Binary.shortest? with
  | some d => d.text
  | none => ['0', '.', '0']

/-- The sign bit of a double is set. -/
def isNegative (x : Float) : Bool := x.toBits >>> 63 == 1

/-- A finite double. -/
def floatText (x : Float) : String :=
  String.ofList ((if isNegative x then ['-'] else []) ++ magnitudeText x)

end AddressGate
