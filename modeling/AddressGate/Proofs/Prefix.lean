/-
  Prefixes as numbers.

  * `bigEndian_cons`, `bigEndian_lt` and `bigEndian_inj`: the number of a row of
    octets, and so of an address; addresses of one family with the same number
    are equal (`toNat_inj`);
  * `masked_eq_iff`: two rows agree under the mask of the first `length` bits
    iff their numbers agree without the bits behind them;
  * `sharesPrefix_iff`: the same for addresses.
-/
import Mathlib.Tactic
import AddressGate.Address.Prefix

namespace AddressGate

/-! ## Octets as a number -/

theorem foldl_octets (os : List UInt8) (n : ℕ) :
    os.foldl (fun n o => 256 * n + o.toNat) n = n * 2 ^ (8 * os.length) + bigEndian os := by
  induction os generalizing n with
  | nil => simp [bigEndian]
  | cons o os ih =>
    have hpow : 2 ^ (8 * (os.length + 1)) = 256 * 2 ^ (8 * os.length) := by
      rw [Nat.mul_add, Nat.pow_add]; omega
    simp only [bigEndian, List.foldl_cons, List.length_cons]
    rw [ih, ih (256 * 0 + o.toNat), hpow]
    ring

theorem bigEndian_cons (o : UInt8) (os : List UInt8) :
    bigEndian (o :: os) = o.toNat * 2 ^ (8 * os.length) + bigEndian os := by
  rw [bigEndian, List.foldl_cons, foldl_octets]; simp

theorem bigEndian_append (os ps : List UInt8) :
    bigEndian (os ++ ps) = bigEndian os * 2 ^ (8 * ps.length) + bigEndian ps := by
  rw [bigEndian, List.foldl_append, foldl_octets]; rfl

theorem bigEndian_lt (os : List UInt8) : bigEndian os < 2 ^ (8 * os.length) := by
  induction os with
  | nil => simp [bigEndian]
  | cons o os ih =>
    have ho : o.toNat < 256 := o.toNat_lt
    rw [bigEndian_cons, List.length_cons, Nat.mul_add, Nat.pow_add]
    calc o.toNat * 2 ^ (8 * os.length) + bigEndian os
        < o.toNat * 2 ^ (8 * os.length) + 2 ^ (8 * os.length) := by omega
      _ = (o.toNat + 1) * 2 ^ (8 * os.length) := by ring
      _ ≤ 2 ^ (8 * 1) * 2 ^ (8 * os.length) := Nat.mul_le_mul_right _ (by omega)
      _ = 2 ^ (8 * os.length) * 2 ^ (8 * 1) := Nat.mul_comm _ _

/-- A number is read off uniquely from a multiple and a smaller rest. -/
theorem mul_add_eq_iff {m a b r s : ℕ} (hr : r < m) (hs : s < m) :
    a * m + r = b * m + s ↔ a = b ∧ r = s := by
  constructor
  · intro h
    have hmod : (a * m + r) % m = (b * m + s) % m := by rw [h]
    rw [Nat.mul_add_mod_of_lt hr, Nat.mul_add_mod_of_lt hs] at hmod
    subst hmod
    exact ⟨Nat.eq_of_mul_eq_mul_right (by omega : 0 < m) (by omega), rfl⟩
  · rintro ⟨rfl, rfl⟩; rfl

theorem bigEndian_inj {os ps : List UInt8} (hl : os.length = ps.length)
    (h : bigEndian os = bigEndian ps) : os = ps := by
  induction os generalizing ps with
  | nil => rw [List.length_eq_zero_iff.1 hl.symm]
  | cons o os ih =>
    obtain _ | ⟨p, ps⟩ := ps
    · simp at hl
    · have hl' : os.length = ps.length := by simpa using hl
      rw [bigEndian_cons, bigEndian_cons, ← hl',
        mul_add_eq_iff (bigEndian_lt os) (hl' ▸ bigEndian_lt ps)] at h
      rw [UInt8.toNat_inj.1 h.1, ih hl' h.2]

/-! ## Masks -/

theorem prefixMask_succ (size length : ℕ) :
    prefixMask (size + 1) length = octetMask length :: prefixMask size (length - 8) := by
  simp only [prefixMask, List.range_succ_eq_map, List.map_cons, List.map_map]
  refine congrArg₂ _ rfl (List.map_congr_left fun i _ => ?_)
  simp only [Function.comp_apply, Nat.succ_eq_add_one]
  congr 1; omega

theorem masked_cons (o : UInt8) (os : List UInt8) (length : ℕ) :
    masked (o :: os) length = (o &&& octetMask length) :: masked os (length - 8) := by
  rw [masked, List.length_cons, prefixMask_succ]; rfl

theorem and_shiftLeft_eq (n m s : ℕ) : n &&& m <<< s = (n >>> s &&& m) <<< s := by
  apply Nat.eq_of_testBit_eq
  intro i
  simp only [Nat.testBit_and, Nat.testBit_shiftLeft, Nat.testBit_shiftRight]
  by_cases hi : s ≤ i
  · simp [hi]
  · simp [hi]

/-- Clearing the bits behind the first `length` rounds down. -/
theorem toNat_and_octetMask (o : UInt8) (length : ℕ) :
    (o &&& octetMask length).toNat = o.toNat / 2 ^ (8 - length) * 2 ^ (8 - length) := by
  have ho : o.toNat < 2 ^ 8 := o.toNat_lt
  have hs : 8 - min length 8 = 8 - length := by omega
  have hq : o.toNat >>> (8 - length) < 2 ^ 8 := (Nat.shiftRight_le _ _).trans_lt ho
  calc (o &&& octetMask length).toNat
      = o.toNat &&& (255 <<< (8 - length)) % 2 ^ 8 := by
        rw [UInt8.toNat_and, octetMask, UInt8.toNat_ofNat', hs]
    _ = (o.toNat &&& 255 <<< (8 - length)) % 2 ^ 8 := by
        rw [Nat.and_mod_two_pow, Nat.mod_eq_of_lt ho]
    _ = o.toNat &&& 255 <<< (8 - length) := Nat.mod_eq_of_lt (Nat.and_le_left.trans_lt ho)
    _ = (o.toNat >>> (8 - length) &&& (2 ^ 8 - 1)) <<< (8 - length) := and_shiftLeft_eq _ _ _
    _ = o.toNat >>> (8 - length) <<< (8 - length) := by
        rw [Nat.and_two_pow_sub_one_eq_mod, Nat.mod_eq_of_lt hq]
    _ = o.toNat / 2 ^ (8 - length) * 2 ^ (8 - length) := by
        rw [Nat.shiftLeft_eq, Nat.shiftRight_eq_div_pow]

theorem and_octetMask_eq_iff (o p : UInt8) (length : ℕ) :
    o &&& octetMask length = p &&& octetMask length ↔
      o.toNat / 2 ^ (8 - length) = p.toNat / 2 ^ (8 - length) := by
  rw [← UInt8.toNat_inj, toNat_and_octetMask, toNat_and_octetMask]
  exact Nat.mul_left_inj (Nat.two_pow_pos _).ne'

/-- The leading bits of a number of eight and `w` bits: those of its first
    octet, then those of the rest. -/
theorem div_octet_eq_iff {w length o p v u : ℕ} (hv : v < 2 ^ w) (hu : u < 2 ^ w) :
    (o * 2 ^ w + v) / 2 ^ (w + 8 - length) = (p * 2 ^ w + u) / 2 ^ (w + 8 - length) ↔
      o / 2 ^ (8 - length) = p / 2 ^ (8 - length) ∧
        v / 2 ^ (w - (length - 8)) = u / 2 ^ (w - (length - 8)) := by
  rcases Nat.le_total length 8 with hle | hle
  · -- the rest has no leading bit
    have hrest : ∀ {n : ℕ}, n < 2 ^ w → n / 2 ^ (w - (length - 8)) = 0 := by
      intro n hn
      rw [show w - (length - 8) = w by omega]; exact Nat.div_eq_of_lt hn
    have hhead : ∀ {q n : ℕ}, n < 2 ^ w →
        (q * 2 ^ w + n) / 2 ^ (w + 8 - length) = q / 2 ^ (8 - length) := by
      intro q n hn
      rw [show w + 8 - length = w + (8 - length) by omega, Nat.pow_add, ← Nat.div_div_eq_div_mul,
        Nat.add_comm, Nat.add_mul_div_right _ _ (Nat.two_pow_pos w), Nat.div_eq_of_lt hn,
        Nat.zero_add]
    rw [hhead hv, hhead hu, hrest hv, hrest hu]; simp
  · -- the first octet counts whole
    set e := w - (length - 8) with he
    have hsplit : 2 ^ w = 2 ^ (w - e) * 2 ^ e := by
      rw [← Nat.pow_add]; congr 1; omega
    have hhead : ∀ {q n : ℕ}, (q * 2 ^ w + n) / 2 ^ e = q * 2 ^ (w - e) + n / 2 ^ e := by
      intro q n
      rw [hsplit, ← Nat.mul_assoc, Nat.add_comm, Nat.add_mul_div_right _ _ (Nat.two_pow_pos e),
        Nat.add_comm]
    have hlt : ∀ {n : ℕ}, n < 2 ^ w → n / 2 ^ e < 2 ^ (w - e) := by
      intro n hn
      exact Nat.div_lt_of_lt_mul (by rwa [Nat.mul_comm, ← hsplit])
    have hpow : 2 ^ (w + 8 - length) = 2 ^ e := by congr 1; omega
    rw [hpow, hhead, hhead, mul_add_eq_iff (hlt hv) (hlt hu), show 8 - length = 0 by omega]
    simp

/-- **Two rows agree under a mask iff their numbers agree without the bits
    behind it.** -/
theorem masked_eq_iff {os ps : List UInt8} (hl : os.length = ps.length) (length : ℕ) :
    masked os length = masked ps length ↔
      bigEndian os / 2 ^ (8 * os.length - length) =
        bigEndian ps / 2 ^ (8 * os.length - length) := by
  induction os generalizing ps length with
  | nil => rw [List.length_eq_zero_iff.1 hl.symm]; simp
  | cons o os ih =>
    obtain _ | ⟨p, ps⟩ := ps
    · simp at hl
    · have hl' : os.length = ps.length := by simpa using hl
      rw [masked_cons, masked_cons, List.cons.injEq, and_octetMask_eq_iff, ih hl' (length - 8),
        bigEndian_cons, bigEndian_cons, List.length_cons, Nat.mul_add, ← hl',
        div_octet_eq_iff (bigEndian_lt os) (hl' ▸ bigEndian_lt ps)]

/-! ## Addresses -/

namespace Address

theorem toNat_eq_bigEndian (a : Address) : a.toNat = bigEndian a.octets := rfl

theorem toNat_lt (a : Address) : a.toNat < 2 ^ a.bits := by
  rw [bits, Family.bits, ← a.length_octets]; exact bigEndian_lt a.octets

/-- An address is its family and its number. -/
theorem toNat_inj {a b : Address} (hf : a.family = b.family) (h : a.toNat = b.toNat) : a = b :=
  ext hf (bigEndian_inj (by rw [a.length_octets, b.length_octets, hf]) h)

/-- **Addresses share a prefix iff they are of one family and their numbers
    agree without the bits behind it.** -/
theorem sharesPrefix_iff {a b : Address} {length : ℕ} :
    a.sharesPrefix b length = true ↔ a.family = b.family ∧
      a.toNat / 2 ^ (a.bits - length) = b.toNat / 2 ^ (a.bits - length) := by
  simp only [sharesPrefix, Bool.and_eq_true, beq_iff_eq]
  refine and_congr_right fun hf => ?_
  have hl : a.octets.length = b.octets.length := by rw [a.length_octets, b.length_octets, hf]
  rw [masked_eq_iff hl, a.length_octets]; rfl

theorem sharesPrefix_self (a : Address) (length : ℕ) : a.sharesPrefix a length = true :=
  sharesPrefix_iff.2 ⟨rfl, rfl⟩

/-- A prefix of all bits is the address. -/
theorem sharesPrefix_iff_eq {a b : Address} {length : ℕ} (h : a.bits ≤ length) :
    a.sharesPrefix b length = true ↔ a = b := by
  rw [sharesPrefix_iff, Nat.sub_eq_zero_of_le h, Nat.pow_zero, Nat.div_one, Nat.div_one]
  constructor
  · rintro ⟨hf, hn⟩
    exact toNat_inj hf hn
  · rintro rfl
    exact ⟨rfl, rfl⟩

/-- Lengths beyond the address count as that of the address. -/
theorem sharesPrefix_min {a b : Address} {length : ℕ} :
    a.sharesPrefix b (min length a.bits) = a.sharesPrefix b length := by
  have hfree : a.bits - min length a.bits = a.bits - length := by omega
  rw [Bool.eq_iff_iff, sharesPrefix_iff, sharesPrefix_iff, hfree]

end Address

end AddressGate
