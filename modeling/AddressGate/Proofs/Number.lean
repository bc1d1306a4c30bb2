/-
  The value of a row of digits.

  * `number?_ten_eq_some_iff`: a decimal number is a non-empty row of ASCII
    digits (`IsDecimal`), with any number of leading zeros;
  * `numberFrom?_sixteen_eq_some_iff`: a hexadecimal number is one of digits of
    either case (`hexDigits`), and its value is that of these (`ofHexDigits`);
  * `number?_toDigits`: the digits that are written for a number are read as
    that number.
-/
import Mathlib.Algebra.Group.Nat.Defs
import Mathlib.Tactic.SplitIfs
import AddressGate.Text.Number

namespace AddressGate.Text

/-- A row of ASCII digits, not empty. -/
def IsDigits (cs : List Char) : Prop := cs ≠ [] ∧ ∀ c ∈ cs, c.isDigit = true

/-- A row of ASCII digits of value `n`, not empty. -/
def IsDecimal (cs : List Char) (n : Nat) : Prop := IsDigits cs ∧ Nat.ofDigitChars 10 cs 0 = n

/-! ## Rows of digits -/

section
variable {base : Nat} {cs : List Char} {m n : Nat}

/-- A row is read iff all its characters are digits, and then by their values. -/
theorem numberFrom?_eq_some_iff {IsDigit : Char → Prop} {value : Char → Nat}
    (h : ∀ {c d}, digitValue? base c = some d ↔ IsDigit c ∧ value c = d) :
    numberFrom? base m cs = some n ↔
      (∀ c ∈ cs, IsDigit c) ∧ cs.foldl (fun k c => base * k + value c) m = n := by
  induction cs generalizing m with
  | nil => simp [numberFrom?]
  | cons c cs ih =>
    simp only [numberFrom?, Option.bind_eq_some_iff, h, ih, List.forall_mem_cons, List.foldl_cons]
    constructor
    · rintro ⟨d, ⟨hc, rfl⟩, hcs, hn⟩
      exact ⟨⟨hc, hcs⟩, hn⟩
    · rintro ⟨⟨hc, hcs⟩, hn⟩
      exact ⟨_, ⟨hc, rfl⟩, hcs, hn⟩

theorem numberFrom?_lt (h : numberFrom? base m cs = some n) : n < (m + 1) * base ^ cs.length := by
  induction cs generalizing m with
  | nil => obtain rfl := Option.some.inj h; simp
  | cons c cs ih =>
    obtain ⟨d, hd, hn⟩ := Option.bind_eq_some_iff.1 h
    have hlt : d < base := digitValue?_lt hd
    calc n < (base * m + d + 1) * base ^ cs.length := ih hn
      _ ≤ ((m + 1) * base) * base ^ cs.length := Nat.mul_le_mul_right _ (by
          rw [Nat.add_mul, Nat.mul_comm m]; omega)
      _ = (m + 1) * base ^ (c :: cs).length := by
          rw [List.length_cons, Nat.pow_succ, Nat.mul_assoc, Nat.mul_comm base]

end

/-! ## Decimal digits -/

theorem isDigit_iff_le {c : Char} : c.isDigit = true ↔ '0' ≤ c ∧ c ≤ '9' := by
  simp [Char.isDigit, Char.le_def]

theorem digitValue?_ten_eq_some_iff {c : Char} {d : Nat} :
    digitValue? 10 c = some d ↔ c.isDigit = true ∧ c.toNat - '0'.toNat = d := by
  rw [digitValue?, Option.filter_eq_some_iff, isDigit_iff_le]
  simp only [decide_eq_true_eq]
  constructor
  · rintro ⟨h, hd⟩
    unfold hexValue? at h
    split_ifs at h with h0 ha hA
    · exact ⟨h0, Option.some.inj h⟩
    · have := Option.some.inj h; omega
    · have := Option.some.inj h; omega
  · rintro ⟨h, rfl⟩
    have h9 : c.toNat ≤ '9'.toNat := UInt32.le_iff_toNat_le.1 h.2
    refine ⟨by rw [hexValue?, if_pos h], ?_⟩
    change c.toNat ≤ 57 at h9
    change c.toNat - 48 < 10
    omega

theorem numberFrom?_ten_eq_some_iff {cs : List Char} {m n : Nat} :
    numberFrom? 10 m cs = some n ↔
      (∀ c ∈ cs, c.isDigit = true) ∧ Nat.ofDigitChars 10 cs m = n := by
  rw [Nat.ofDigitChars_eq_foldl]
  exact numberFrom?_eq_some_iff digitValue?_ten_eq_some_iff

/-- **A decimal number is a non-empty row of ASCII digits.** -/
theorem number?_ten_eq_some_iff {cs : List Char} {n : Nat} :
    number? 10 cs = some n ↔ IsDecimal cs n := by
  cases cs with
  | nil => simp [number?, IsDecimal, IsDigits]
  | cons c cs => simp only [number?, numberFrom?_ten_eq_some_iff, IsDecimal, IsDigits, ne_eq,
      reduceCtorEq, not_false_eq_true, true_and]

/-! ## Hexadecimal digits -/

/-- The sixteen digits in lower case, each at the place of its value. -/
def hexDigits : List Char := "0123456789abcdef".toList

/-- The value of a row of hexadecimal digits of either case. -/
def ofHexDigits (cs : List Char) : Nat :=
  cs.foldl (fun n c => 16 * n + hexDigits.idxOf c.toLower) 0

theorem toNat_lt_of_toLower_mem_hexDigits {c : Char} (h : c.toLower ∈ hexDigits) :
    c.toNat < 128 := by
  have hall : hexDigits.all (fun d => d.toNat < 128) = true := by decide
  by_cases hc : c.val ≥ 'A'.val ∧ c.val ≤ 'Z'.val
  · have hZ : c.toNat ≤ 'Z'.toNat := UInt32.le_iff_toNat_le.1 hc.2
    exact Nat.lt_of_le_of_lt hZ (by decide)
  · have hlower : c.toLower = c := dif_neg hc
    rw [hlower] at h
    exact of_decide_eq_true (List.all_eq_true.1 hall _ h)

theorem toNat_lt_of_hexValue? {c : Char} {d : Nat} (h : hexValue? c = some d) : c.toNat < 128 := by
  have hle : ∀ {e : Char}, c ≤ e → e.toNat < 128 → c.toNat < 128 := fun hce he =>
    Nat.lt_of_le_of_lt (UInt32.le_iff_toNat_le.1 hce) he
  unfold hexValue? at h
  split_ifs at h with h0 ha hA
  · exact hle h0.2 (by decide)
  · exact hle ha.2 (by decide)
  · exact hle hA.2 (by decide)

/-- **A character is a hexadecimal digit iff it is one of the sixteen in lower
    case, and then its value is its place.** -/
theorem hexValue?_eq_some_iff {c : Char} {d : Nat} :
    hexValue? c = some d ↔ c.toLower ∈ hexDigits ∧ hexDigits.idxOf c.toLower = d := by
  have hall : ∀ k : Fin 128, hexValue? (Char.ofNat k) =
      if (Char.ofNat k).toLower ∈ hexDigits then some (hexDigits.idxOf (Char.ofNat k).toLower)
      else none := by decide +kernel
  by_cases hc : c.toNat < 128
  · have h := hall ⟨c.toNat, hc⟩
    rw [Char.ofNat_toNat] at h
    rw [h]
    split_ifs with hmem <;> simp [hmem]
  · exact ⟨fun h => absurd (toNat_lt_of_hexValue? h) hc,
      fun h => absurd (toNat_lt_of_toLower_mem_hexDigits h.1) hc⟩

theorem isHexDigit_iff {c : Char} : isHexDigit c = true ↔ c.toLower ∈ hexDigits := by
  rw [isHexDigit, Option.isSome_iff_exists]
  simp only [hexValue?_eq_some_iff, exists_and_left, exists_eq', and_true]

theorem digitValue?_sixteen_eq_some_iff {c : Char} {d : Nat} :
    digitValue? 16 c = some d ↔ c.toLower ∈ hexDigits ∧ hexDigits.idxOf c.toLower = d := by
  rw [digitValue?, Option.filter_eq_some_iff, hexValue?_eq_some_iff, decide_eq_true_eq]
  exact and_iff_left_of_imp fun h => h.2 ▸ List.idxOf_lt_length_of_mem h.1

theorem numberFrom?_sixteen_eq_some_iff {cs : List Char} {n : Nat} :
    numberFrom? 16 0 cs = some n ↔ (∀ c ∈ cs, c.toLower ∈ hexDigits) ∧ ofHexDigits cs = n :=
  numberFrom?_eq_some_iff digitValue?_sixteen_eq_some_iff

/-! ## Reading what was written -/

theorem isSome_digitValue?_of_numberFrom? {base m n : Nat} {cs : List Char}
    (h : numberFrom? base m cs = some n) : ∀ c ∈ cs, (digitValue? base c).isSome := by
  induction cs generalizing m with
  | nil => simp
  | cons c cs ih =>
    obtain ⟨d, hd, hcs⟩ := Option.bind_eq_some_iff.1 h
    exact List.forall_mem_cons.2 ⟨by rw [hd]; rfl, ih hcs⟩

theorem digitValue?_digitChar {base d : Nat} (hb : base ≤ 16) (hd : d < base) :
    digitValue? base d.digitChar = some d := by
  have hx : ∀ e : Fin 16, hexValue? (Nat.digitChar e) = some e.1 := by decide
  rw [digitValue?, Option.filter_eq_some_iff]
  exact ⟨hx ⟨d, by omega⟩, by simpa using hd⟩

theorem numberFrom?_toDigits {base : Nat} (h1 : 1 < base) (h16 : base ≤ 16) (n : Nat) :
    numberFrom? base 0 (Nat.toDigits base n) = some n := by
  induction n using Nat.strongRecOn with
  | ind n ih =>
    by_cases hn : n < base
    · rw [Nat.toDigits_of_lt_base hn, numberFrom?, digitValue?_digitChar h16 hn]
      simp [numberFrom?]
    · have hlt : n / base < n := Nat.div_lt_self (by omega) h1
      have hmod : n % base < base := Nat.mod_lt _ (by omega)
      rw [Nat.toDigits_of_base_le h1 (by omega), numberFrom?_append, ih _ hlt]
      simp only [Option.bind_some, numberFrom?, digitValue?_digitChar h16 hmod]
      rw [Nat.div_add_mod]

/-- **The digits that are written for a number are read as that number.** -/
theorem number?_toDigits {base : Nat} (h1 : 1 < base) (h16 : base ≤ 16) (n : Nat) :
    number? base (Nat.toDigits base n) = some n := by
  have h := numberFrom?_toDigits h1 h16 n
  cases hd : Nat.toDigits base n with
  | nil => exact absurd hd Nat.toDigits_ne_nil
  | cons c cs => rwa [hd] at h

end AddressGate.Text
