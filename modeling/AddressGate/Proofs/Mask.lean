/-
  Masks as numbers and as bits, and the steps in which they are filled.

  * `bigEndian_prefixMask` and `bitAt_prefixMask`: the number of a mask, and its
    bits from the front;
  * `Mask.fill_zeros` and `Mask.set_prefixMask`: each of the two steps in place
    turns a mask into a longer one, so the row is a mask all along;
  * `filledMask_eq`: no step finds its word or the row too small, and the result
    is the mask;
  * `filledMask_bits`: the filled mask as a number and as bits.
-/
import AddressGate.Address.Mask
import AddressGate.Proofs.Bits

namespace AddressGate

/-! ## One octet -/

theorem toNat_octetMask (length : ℕ) : (octetMask length).toNat = 2 ^ 8 - 2 ^ (8 - length) := by
  have hs : 8 - min length 8 = 8 - length := by omega
  have hle : 8 - length ≤ 8 := by omega
  rw [octetMask, hs]
  generalize 8 - length = s at hle
  interval_cases s <;> rfl

theorem octetMask_of_le {length : ℕ} (h : 8 ≤ length) : octetMask length = 0xFF := by
  rw [← UInt8.toNat_inj, toNat_octetMask, Nat.sub_eq_zero_of_le h]
  rfl

theorem testBit_octetMask (length : ℕ) {i : ℕ} (h : i < 8) :
    (octetMask length).toNat.testBit (7 - i) = decide (i < length) := by
  have hs : 8 - min length 8 = 8 - length := by omega
  rw [octetMask, UInt8.toNat_ofNat', hs, Nat.testBit_mod_two_pow, Nat.testBit_shiftLeft,
    show 255 = 2 ^ 8 - 1 from rfl, Nat.testBit_two_pow_sub_one, Bool.eq_iff_iff]
  simp only [Bool.and_eq_true, decide_eq_true_iff]
  omega

/-! ## A row of octets -/

section
variable {size length i : ℕ}

theorem getElem_prefixMask (h : i < (prefixMask size length).length) :
    (prefixMask size length)[i] = octetMask (length - 8 * i) := by
  simp [prefixMask]

/-- Lengths beyond the row count as that of the row. -/
theorem prefixMask_min (size length : ℕ) :
    prefixMask size (min length (8 * size)) = prefixMask size length := by
  refine List.map_congr_left fun i hi => ?_
  have hi : i < size := List.mem_range.1 hi
  rw [octetMask, octetMask]
  congr 3
  omega

/-- **The number of a mask.**  It lacks what the clear bits can count up to. -/
theorem bigEndian_prefixMask (size length : ℕ) :
    bigEndian (prefixMask size length) = 2 ^ (8 * size) - 2 ^ (8 * size - length) := by
  induction size generalizing length with
  | zero => simp [prefixMask, bigEndian]
  | succ size ih =>
    have hgrow : 2 ^ (8 * size) ≤ 2 ^ (8 * size + 8) := Nat.pow_le_pow_right (by omega) (by omega)
    rw [prefixMask_succ, bigEndian_cons, length_prefixMask, ih, toNat_octetMask, Nat.sub_mul,
      ← Nat.pow_add, ← Nat.pow_add, Nat.mul_add, Nat.mul_one, Nat.add_comm 8 (8 * size)]
    rcases Nat.le_total length 8 with hle | hle
    · -- the mask ends in the first octet
      rw [show 8 * size - (length - 8) = 8 * size by omega,
        show 8 - length + 8 * size = 8 * size + 8 - length by omega, Nat.sub_self, Nat.add_zero]
    · -- the first octet is set whole
      have hrest : 2 ^ (8 * size + 8 - length) ≤ 2 ^ (8 * size) :=
        Nat.pow_le_pow_right (by omega) (by omega)
      rw [show 8 * size - (length - 8) = 8 * size + 8 - length by omega,
        show 8 - length + 8 * size = 8 * size by omega]
      omega

/-- **The bits of a mask**, the most significant one first. -/
theorem bitAt_prefixMask (length : ℕ) (h : i < 8 * size) :
    bitAt (prefixMask size length) i = decide (i < length) := by
  have hoctet : i / 8 < (prefixMask size length).length := by
    rw [length_prefixMask]
    omega
  rw [bitAt, List.getD_eq_getElem?_getD, List.getElem?_eq_getElem hoctet, Option.getD_some,
    getElem_prefixMask, testBit_octetMask _ (Nat.mod_lt i (by omega)), decide_eq_decide]
  omega

end

/-! ## Steps in place -/

namespace Mask

/-- The octet at the end of the set bits is shifted by less than its width, and
    one is taken from a power of two. -/
theorem lastOctet_eq {n : UInt64} (hpos : 0 < n.toNat) (hlt : n.toNat < 8) :
    lastOctet n = .ok (octetMask n.toNat) := by
  obtain ⟨k, hk⟩ : ∃ k, n.toNat = k := ⟨_, rfl⟩
  have hn : n = UInt64.ofNat k := by rw [← hk, UInt64.ofNat_toNat]
  subst hn
  rw [hk] at hpos hlt ⊢
  interval_cases k <;> rfl

/-- Whole octets at the front of a clear row make a mask. -/
theorem fill_zeros {size : ℕ} {n : UInt64} (h : n.toNat ≤ size) :
    fill (List.replicate size 0) n 0xFF = .ok (prefixMask size (8 * n.toNat)) := by
  rw [fill, if_pos (by rwa [List.length_replicate])]
  congr 1
  refine List.ext_getElem (by simp; omega) fun i hi _ => ?_
  rw [getElem_prefixMask, List.getElem_append]
  split
  · next hlt =>
    rw [List.length_replicate] at hlt
    rw [List.getElem_replicate, octetMask_of_le (by omega)]
  · next hge =>
    rw [List.length_replicate] at hge
    rw [List.getElem_drop, List.getElem_replicate, Nat.sub_eq_zero_of_le (by omega)]
    rfl

/-- The octet behind the whole ones makes the mask longer by its set bits. -/
theorem set_prefixMask {size rest : ℕ} {i : UInt64} (hi : i.toNat < size) (hr : rest < 8) :
    set (prefixMask size (8 * i.toNat)) i (octetMask rest) =
      .ok (prefixMask size (8 * i.toNat + rest)) := by
  rw [set, if_pos (by rwa [length_prefixMask])]
  congr 1
  refine List.ext_getElem (by simp) fun j hj _ => ?_
  rw [getElem_prefixMask, List.getElem_set]
  split
  · next heq =>
    rw [heq, Nat.add_sub_cancel_left]
  · next hne =>
    rw [getElem_prefixMask]
    rcases Nat.lt_or_gt_of_ne hne with hlt | hgt
    · congr 1
      omega
    · rw [octetMask_of_le (by omega), octetMask_of_le (by omega)]

end Mask

/-- No octet has room for a shift by all its bits. -/
example : Mask.shiftLeft 1 8 = .error .shift := rfl

/-! ## The whole mask -/

/-- **Filling a mask in place never fails, and gives the mask.** -/
theorem filledMask_eq {size : UInt64} (length : UInt32) (h : 8 * size.toNat < 2 ^ 64) :
    filledMask size length = .ok (prefixMask size.toNat length.toNat) := by
  have hmul : Mask.mul size 8 = .ok (size * 8) := if_pos (by rw [Nat.mul_comm]; exact h)
  have hsize : (size * 8).toNat = 8 * size.toNat := by
    rw [UInt64.toNat_mul, Nat.mul_comm]
    exact Nat.mod_eq_of_lt h
  obtain ⟨bits, hdef⟩ : ∃ bits, bits = min length.toUInt64 (size * 8) := ⟨_, rfl⟩
  have hbits : bits.toNat = min length.toNat (8 * size.toNat) := by
    rw [hdef, UInt64.toNat_min, hsize, UInt32.toNat_toUInt64]
  have hquot : (bits / 8).toNat = bits.toNat / 8 := UInt64.toNat_div _ _
  have hrest : (bits % 8).toNat = bits.toNat % 8 := UInt64.toNat_mod _ _
  have hfill : Mask.fill (List.replicate size.toNat 0) (bits / 8) 0xFF =
      .ok (prefixMask size.toNat (8 * (bits / 8).toNat)) := Mask.fill_zeros (by omega)
  have hresult : prefixMask size.toNat (8 * (bits / 8).toNat + (bits % 8).toNat) =
      prefixMask size.toNat length.toNat := by
    rw [← prefixMask_min _ length.toNat, ← hbits, hquot, hrest, Nat.div_add_mod]
  simp only [filledMask, hmul, bind, Except.bind, ← hdef, hfill]
  split
  · next hpos =>
    -- the clamp leaves room for the octet that is covered in part
    have hpos : 0 < (bits % 8).toNat := hpos
    rw [Mask.lastOctet_eq hpos (by omega)]
    show Mask.set _ _ _ = _
    rw [Mask.set_prefixMask (by omega) (by omega), hresult]
  · next hzero =>
    have hzero : ¬ 0 < (bits % 8).toNat := hzero
    rw [show (bits % 8).toNat = 0 by omega, Nat.add_zero] at hresult
    rw [hresult]
    rfl

/-- **A filled mask, as a number and as bits.**  As long as the bits of the row
    can be counted in a word, every step finds its word and the row large enough:
    no product or difference leaves its word, no octet is shifted by all its
    bits, and no octet beyond the row is set.  The row keeps its size, its number
    is that of the set bits at the front, of which there are no more than bits in
    the row, and its bits are set exactly in front of the length. -/
theorem filledMask_bits (size : UInt64) (length : UInt32) (h : 8 * size.toNat < 2 ^ 64) :
    ∃ mask, filledMask size length = .ok mask ∧ mask.length = size.toNat ∧
      bigEndian mask =
        2 ^ (8 * size.toNat) - 2 ^ (8 * size.toNat - min length.toNat (8 * size.toNat)) ∧
      (∀ i < 8 * size.toNat, bitAt mask i = true ↔ i < length.toNat) ∧
      mask = prefixMask size.toNat length.toNat := by
  refine ⟨_, filledMask_eq length h, length_prefixMask _ _, ?_, fun i hi => ?_, rfl⟩
  · rw [← prefixMask_min, bigEndian_prefixMask]
  · rw [bitAt_prefixMask _ hi, decide_eq_true_iff]

/-- The third octet of four is covered in part. -/
theorem filledMask_bits_part_of_octet : 8 * (4 : UInt64).toNat < 2 ^ 64 ∧
    ∃ mask, filledMask 4 20 = .ok mask ∧ bigEndian mask = 0xFFFFF000 ∧ bitAt mask 19 = true ∧
      bitAt mask 20 = false := by
  have h : 8 * (4 : UInt64).toNat < 2 ^ 64 := by decide
  obtain ⟨mask, hmask, -, hnumber, hbits, -⟩ := filledMask_bits 4 20 h
  refine ⟨h, mask, hmask, hnumber, (hbits 19 (by decide)).2 (by decide), ?_⟩
  rw [← Bool.not_eq_true, hbits 20 (by decide)]
  decide

end AddressGate
