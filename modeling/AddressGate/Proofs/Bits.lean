/-
  Prefixes as bits.

  * `bitAt os i` is the bit `i` of a row of octets, counted from the most
    significant bit of the first octet; `Address.bit` is that of an address;
  * `testBit_bigEndian`: these are the bits of the number of the row, counted
    from its other end;
  * `div_two_pow_eq_iff`: two numbers agree without their last bits iff all
    their other bits agree;
  * `sharesPrefix_iff_bits`: addresses share a prefix iff they are of one family
    and agree in the first bits.
-/
import AddressGate.Proofs.Prefix

namespace AddressGate

/-! ## Rows of octets -/

/-- The bit at a position, counted from the most significant bit of the first
    octet. -/
def bitAt (os : List UInt8) (i : ℕ) : Bool := (os.getD (i / 8) 0).toNat.testBit (7 - i % 8)

theorem bitAt_cons_of_lt (o : UInt8) (os : List UInt8) {i : ℕ} (h : i < 8) :
    bitAt (o :: os) i = o.toNat.testBit (7 - i) := by
  rw [bitAt, Nat.div_eq_of_lt h, Nat.mod_eq_of_lt h, List.getD_cons_zero]

theorem bitAt_cons_of_le (o : UInt8) (os : List UInt8) {i : ℕ} (h : 8 ≤ i) :
    bitAt (o :: os) i = bitAt os (i - 8) := by
  have hq : i / 8 = (i - 8) / 8 + 1 := by omega
  have hr : i % 8 = (i - 8) % 8 := by omega
  rw [bitAt, hq, hr, List.getD_cons_succ, bitAt]

/-- **The bits of a row are those of its number, counted from the other end.** -/
theorem testBit_bigEndian {os : List UInt8} {i : ℕ} (h : i < 8 * os.length) :
    (bigEndian os).testBit (8 * os.length - 1 - i) = bitAt os i := by
  induction os generalizing i with
  | nil => simp at h
  | cons o os ih =>
    rw [List.length_cons] at h ⊢
    rw [bigEndian_cons, Nat.mul_comm, Nat.testBit_two_pow_mul_add _ (bigEndian_lt os)]
    -- the number is that of the first octet in front of that of the rest
    rcases Nat.lt_or_ge i 8 with hi | hi
    · rw [if_neg (by omega), bitAt_cons_of_lt o os hi]
      congr 1
      omega
    · rw [if_pos (by omega), bitAt_cons_of_le o os hi, ← ih (by omega)]
      congr 1
      omega

/-- Two numbers agree without the last `k` bits iff all their other bits agree. -/
theorem div_two_pow_eq_iff {m n k : ℕ} :
    m / 2 ^ k = n / 2 ^ k ↔ ∀ j, k ≤ j → m.testBit j = n.testBit j := by
  constructor
  · intro h j hj
    have hm := Nat.testBit_div_two_pow (n := k) m (j - k)
    have hn := Nat.testBit_div_two_pow (n := k) n (j - k)
    rw [Nat.sub_add_cancel hj] at hm hn
    rw [← hm, ← hn, h]
  · intro h
    refine Nat.eq_of_testBit_eq fun j => ?_
    rw [Nat.testBit_div_two_pow, Nat.testBit_div_two_pow]
    exact h _ (Nat.le_add_left k j)

/-! ## Addresses -/

namespace Address

/-- The bit of an address at a position, the most significant one first. -/
def bit (a : Address) (i : ℕ) : Bool := bitAt a.octets i

theorem testBit_toNat {a : Address} {i : ℕ} (h : i < a.bits) :
    a.toNat.testBit (a.bits - 1 - i) = a.bit i := by
  rw [bits, Family.bits, ← a.length_octets] at h ⊢
  exact testBit_bigEndian h

theorem testBit_toNat_of_le {a : Address} {j : ℕ} (h : a.bits ≤ j) : a.toNat.testBit j = false :=
  Nat.testBit_lt_two_pow (a.toNat_lt.trans_le (Nat.pow_le_pow_right (by omega) h))

theorem bits_congr {a b : Address} (h : a.family = b.family) : a.bits = b.bits :=
  congrArg Family.bits h

/-- **Addresses share a prefix iff they are of one family and agree in each of
    its bits.**  A length beyond the address counts as that of the address. -/
theorem sharesPrefix_iff_bits (a b : Address) (length : ℕ) :
    a.sharesPrefix b length = true ↔
      a.family = b.family ∧ ∀ i < min length a.bits, a.bit i = b.bit i := by
  rw [sharesPrefix_iff]
  refine and_congr_right fun hf => ?_
  have hbits := bits_congr hf
  rw [div_two_pow_eq_iff]
  constructor
  · intro h i hi
    rw [← testBit_toNat (by omega), ← testBit_toNat (by omega), ← hbits]
    exact h _ (by omega)
  · intro h j hj
    rcases Nat.lt_or_ge j a.bits with hlt | hge
    · have hi := h (a.bits - 1 - j) (by omega)
      rw [← testBit_toNat (by omega), ← testBit_toNat (by omega), ← hbits] at hi
      rwa [show a.bits - 1 - (a.bits - 1 - j) = j by omega] at hi
    · -- no number reaches beyond the address
      rw [testBit_toNat_of_le hge, testBit_toNat_of_le (hbits ▸ hge)]

end Address

end AddressGate
