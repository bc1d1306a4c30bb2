/-
  Natural numbers written with ASCII digits.

  * `digitValue? base c` is the value of `c` as a digit of the base: the ten
    decimal digits, then the letters `a` to `f` of either case;
  * `number? base cs` is the value of a non-empty row of digits, the most
    significant first; leading zeros change nothing.

  Numbers are written with `Nat.toDigits`, in lower case and without leading
  zeros.
-/

namespace AddressGate.Text

/-- The value of a character as a digit below sixteen. -/
def hexValue? (c : Char) : Option Nat :=
  if '0' ≤ c ∧ c ≤ '9' then some (c.toNat - '0'.toNat)
  else if 'a' ≤ c ∧ c ≤ 'f' then some (c.toNat - 'a'.toNat + 10)
  else if 'A' ≤ c ∧ c ≤ 'F' then some (c.toNat - 'A'.toNat + 10)
  else none

/-- The character is one of the sixteen digits, in either case. -/
def isHexDigit (c : Char) : Bool := (hexValue? c).isSome

/-- The value of a character as a digit of the base (at most sixteen). -/
def digitValue? (base : Nat) (c : Char) : Option Nat :=
  (hexValue? c).filter (· < base)

/-- The value of a row of digits behind digits of value `n`. -/
def numberFrom? (base n : Nat) : List Char → Option Nat
  | [] => some n
  | c :: cs => (digitValue? base c).bind fun d => numberFrom? base (base * n + d) cs

/-- The value of a non-empty row of digits. -/
def number? (base : Nat) : List Char → Option Nat
  | [] => none
  | c :: cs => numberFrom? base 0 (c :: cs)

theorem digitValue?_lt {base d : Nat} {c : Char} (h : digitValue? base c = some d) : d < base := by
  simpa using (Option.filter_eq_some_iff.1 h).2

theorem numberFrom?_append (base n : Nat) (cs ds : List Char) :
    numberFrom? base n (cs ++ ds) =
      (numberFrom? base n cs).bind fun m => numberFrom? base m ds := by
  induction cs generalizing n with
  | nil => rfl
  | cons c cs ih =>
    simp only [List.cons_append, numberFrom?]
    cases digitValue? base c with
    | none => rfl
    | some d => exact ih (base * n + d)

end AddressGate.Text
