/-
  Subnets nest or are disjoint.

  * `sharesPrefix_symm`, `sharesPrefix_trans` and `sharesPrefix_mono`: to share a
    prefix of some length is an equivalence, the coarser the shorter the prefix;
  * `exists_sharesPrefix_not_succ`: it is strictly coarser, as there is an
    address that differs just behind the prefix;
  * `span_subset_iff` and `span_subset_or_subset`: when a subnet lies in another,
    and what follows from a common address;
  * `candidates specifier` are the texts that a specifier holds, those that are
    read as addresses of its subnet (`mem_candidates_iff`);
  * `nested_or_disjoint`: the same for the candidates of two specifiers.
-/
import AddressGate.Proofs.Bits
import AddressGate.Proofs.Decision

namespace AddressGate

/-! ## Sharing a prefix -/

namespace Address

variable {a b c : Address} {m n : ℕ}

theorem sharesPrefix_symm (h : a.sharesPrefix b n = true) : b.sharesPrefix a n = true := by
  obtain ⟨hf, hq⟩ := sharesPrefix_iff.1 h
  exact sharesPrefix_iff.2 ⟨hf.symm, by rw [← bits_congr hf, hq]⟩

theorem sharesPrefix_trans (h : a.sharesPrefix b n = true) (h' : b.sharesPrefix c n = true) :
    a.sharesPrefix c n = true := by
  obtain ⟨hf, hq⟩ := sharesPrefix_iff.1 h
  obtain ⟨hf', hq'⟩ := sharesPrefix_iff.1 h'
  rw [← bits_congr hf] at hq'
  exact sharesPrefix_iff.2 ⟨hf.trans hf', hq.trans hq'⟩

/-- Lengths beyond the address count as that of the address. -/
theorem sharesPrefix_mono (hmn : min m a.bits ≤ min n a.bits) (h : a.sharesPrefix b n = true) :
    a.sharesPrefix b m = true := by
  obtain ⟨hf, hq⟩ := sharesPrefix_iff.1 h
  refine sharesPrefix_iff.2 ⟨hf, div_two_pow_eq_iff.2 fun j hj => ?_⟩
  exact div_two_pow_eq_iff.1 hq j (by omega)

end Address

/-! ## An address that differs behind the prefix -/

theorem exists_bigEndian {l n : ℕ} (h : n < 2 ^ (8 * l)) :
    ∃ os : List UInt8, os.length = l ∧ bigEndian os = n := by
  induction l generalizing n with
  | zero => exact ⟨[], rfl, by simp at h; simp [h, bigEndian]⟩
  | succ l ih =>
    have hpow : 2 ^ (8 * (l + 1)) = 2 ^ 8 * 2 ^ (8 * l) := by rw [← Nat.pow_add]; congr 1; omega
    obtain ⟨os, hl, hos⟩ := ih (Nat.mod_lt n (Nat.two_pow_pos (8 * l)))
    have hq : n / 2 ^ (8 * l) < 2 ^ 8 := Nat.div_lt_of_lt_mul (by rwa [Nat.mul_comm, ← hpow])
    refine ⟨UInt8.ofNat (n / 2 ^ (8 * l)) :: os, by rw [List.length_cons, hl], ?_⟩
    rw [bigEndian_cons, hl, hos, UInt8.toNat_ofNat', Nat.mod_eq_of_lt hq, Nat.mul_comm,
      Nat.div_add_mod]

namespace Address

/-- Every number of the right size is that of an address. -/
theorem exists_toNat {f : Family} {n : ℕ} (h : n < 2 ^ f.bits) :
    ∃ x : Address, x.family = f ∧ x.toNat = n := by
  obtain ⟨os, hl, hos⟩ := exists_bigEndian h
  exact ⟨⟨f, os, hl⟩, rfl, hos⟩

/-- The bit behind a prefix can be another one. -/
theorem exists_sharesPrefix_not_succ (a : Address) {n : ℕ} (h : n < a.bits) :
    ∃ x, a.sharesPrefix x n = true ∧ ¬ a.sharesPrefix x (n + 1) = true := by
  set k := a.bits - (n + 1) with hk
  have hlt : 2 ^ k < 2 ^ a.bits := Nat.pow_lt_pow_right (by omega) (by omega)
  obtain ⟨x, hf, hx⟩ := exists_toNat (Nat.xor_lt_two_pow a.toNat_lt hlt)
  refine ⟨x, sharesPrefix_iff.2 ⟨hf.symm, ?_⟩, fun hs => ?_⟩
  · rw [div_two_pow_eq_iff]
    intro j hj
    rw [hx, Nat.testBit_xor, Nat.testBit_two_pow_of_ne (by omega), Bool.xor_false]
  · have hbit := div_two_pow_eq_iff.1 (sharesPrefix_iff.1 hs).2 k le_rfl
    rw [hx, Nat.testBit_xor, Nat.testBit_two_pow_self] at hbit
    simp at hbit

end Address

/-! ## Subnets -/

namespace Subnet

variable {s t : Subnet} {x : Address}

/-- **When a subnet lies in another.** -/
theorem span_subset_iff : s.span ⊆ t.span ↔
    s.base.family = t.base.family ∧ min t.length s.base.bits ≤ min s.length s.base.bits ∧
      s.base.sharesPrefix t.base t.length = true := by
  simp only [Set.subset_def, mem_span_iff, contains]
  constructor
  · intro h
    have hbase := Address.sharesPrefix_symm (h s.base (s.base.sharesPrefix_self _))
    refine ⟨(Address.sharesPrefix_iff.1 hbase).1, ?_, hbase⟩
    -- else an address that differs behind the prefix of `s` is lost in `t`
    by_contra hlt
    obtain ⟨x, hx, hnot⟩ :=
      s.base.exists_sharesPrefix_not_succ (n := min s.length s.base.bits) (by omega)
    have hsx := Address.sharesPrefix_mono (m := s.length) (by omega) hx
    have htx := Address.sharesPrefix_trans hbase (h x hsx)
    exact hnot (Address.sharesPrefix_mono (by omega) htx)
  · rintro ⟨-, hle, hst⟩ x hx
    exact Address.sharesPrefix_trans (Address.sharesPrefix_symm hst)
      (Address.sharesPrefix_mono hle hx)

/-- **Two subnets with a common address are nested.** -/
theorem span_subset_or_subset (hs : x ∈ s.span) (ht : x ∈ t.span) :
    s.span ⊆ t.span ∨ t.span ⊆ s.span := by
  rw [mem_span_iff, contains] at hs ht
  have hsx := (Address.sharesPrefix_iff.1 hs).1
  have htx := (Address.sharesPrefix_iff.1 ht).1
  have hbits : s.base.bits = t.base.bits := Address.bits_congr (hsx.trans htx.symm)
  -- the longer prefix is that of the smaller subnet
  rcases Nat.le_total (min t.length s.base.bits) (min s.length s.base.bits) with hle | hle
  · refine Or.inl (span_subset_iff.2 ⟨hsx.trans htx.symm, hle, ?_⟩)
    exact Address.sharesPrefix_trans (Address.sharesPrefix_mono hle hs)
      (Address.sharesPrefix_symm ht)
  · rw [hbits] at hle
    refine Or.inr (span_subset_iff.2 ⟨htx.trans hsx.symm, hle, ?_⟩)
    exact Address.sharesPrefix_trans (Address.sharesPrefix_mono hle ht)
      (Address.sharesPrefix_symm hs)

/-! ## Specifiers -/

/-- The candidates that a specifier holds. -/
def candidates (specifier : String) : Set String := {c | (holds specifier c).result = true}

section
variable {specifier address candidate : String} {n : ℕ} {a : Address}

/-- The address of a well-formed specifier can be read. -/
theorem exists_parse?_of_isWellFormed (hs : Spelled specifier address n)
    (hw : Pattern.isWellFormed specifier = true) : ∃ a, Address.parse? address = some a := by
  obtain ⟨address', n', a, hs', ha⟩ := (Pattern.isWellFormed_iff_readable hs.slash_mem).1 hw
  obtain ⟨rfl, -⟩ := hs.unique hs'
  exact ⟨a, ha⟩

/-- A readable specifier holds the candidates that are read as its addresses. -/
theorem mem_candidates_iff (hs : Spelled specifier address n)
    (ha : Address.parse? address = some a) : candidate ∈ candidates specifier ↔
      ∃ x, Address.parse? candidate = some x ∧ x ∈ span ⟨a, n⟩ := by
  show (holds specifier candidate).result = true ↔ _
  rw [holds_result_iff]
  constructor
  · rintro ⟨address', n', a', x, hs', ha', hc, h⟩
    obtain ⟨rfl, rfl⟩ := hs.unique hs'
    obtain rfl := Option.some.inj (ha.symm.trans ha')
    exact ⟨x, hc, mem_span_iff.2 h⟩
  · rintro ⟨x, hc, h⟩
    exact ⟨address, n, a, x, hs, ha, hc, mem_span_iff.1 h⟩

end

section
variable {specifier specifier' address address' : String} {n n' : ℕ} {a a' : Address}

/-- Every address has a text, so specifiers compare as their subnets. -/
theorem candidates_subset_iff (hs : Spelled specifier address n)
    (ha : Address.parse? address = some a) (hs' : Spelled specifier' address' n')
    (ha' : Address.parse? address' = some a') :
    candidates specifier ⊆ candidates specifier' ↔ span ⟨a, n⟩ ⊆ span ⟨a', n'⟩ := by
  constructor
  · intro h x hx
    have hc : x.text ∈ candidates specifier := (mem_candidates_iff hs ha).2 ⟨x, x.parse?_text, hx⟩
    obtain ⟨y, hy, hmem⟩ := (mem_candidates_iff hs' ha').1 (h hc)
    rw [x.parse?_text] at hy
    cases hy
    exact hmem
  · intro h c hc
    obtain ⟨x, hx, hmem⟩ := (mem_candidates_iff hs ha).1 hc
    exact (mem_candidates_iff hs' ha').2 ⟨x, hx, h hmem⟩

/-- **Well-formed specifiers nest or are disjoint.**  All candidates of the one
    are held by the other iff the addresses are of one family, the prefix of the
    other is not longer, both counted within the address, and the addresses
    share it.  If neither holds all candidates of the other, they have no
    candidate in common. -/
theorem nested_or_disjoint (hs : Spelled specifier address n)
    (hw : Pattern.isWellFormed specifier = true) (hs' : Spelled specifier' address' n')
    (hw' : Pattern.isWellFormed specifier' = true) :
    ∃ a a', Address.parse? address = some a ∧ Address.parse? address' = some a' ∧
      (candidates specifier ⊆ candidates specifier' ↔ a.family = a'.family ∧
        min n' a.bits ≤ min n a.bits ∧ a.sharesPrefix a' n' = true) ∧
      (¬ candidates specifier ⊆ candidates specifier' →
        ¬ candidates specifier' ⊆ candidates specifier →
        candidates specifier ∩ candidates specifier' = ∅) := by
  obtain ⟨a, ha⟩ := exists_parse?_of_isWellFormed hs hw
  obtain ⟨a', ha'⟩ := exists_parse?_of_isWellFormed hs' hw'
  refine ⟨a, a', ha, ha', ?_, ?_⟩
  · rw [candidates_subset_iff hs ha hs' ha', span_subset_iff]
  · rw [candidates_subset_iff hs ha hs' ha', candidates_subset_iff hs' ha' hs ha]
    intro hnot hnot'
    rw [Set.eq_empty_iff_forall_notMem]
    rintro c ⟨hc, hc'⟩
    obtain ⟨x, hx, hmem⟩ := (mem_candidates_iff hs ha).1 hc
    obtain ⟨y, hy, hmem'⟩ := (mem_candidates_iff hs' ha').1 hc'
    obtain rfl := Option.some.inj (hx.symm.trans hy)
    exact (span_subset_or_subset hmem hmem').elim hnot hnot'

/-- Bits behind the prefix may be set, and a length may be beyond the address. -/
theorem nested_or_disjoint_host_bits :
    (Spelled "10.1.2.3/200" "10.1.2.3" 200 ∧ Pattern.isWellFormed "10.1.2.3/200" = true) ∧
    (Spelled "10.255.0.9/8" "10.255.0.9" 8 ∧ Pattern.isWellFormed "10.255.0.9/8" = true) ∧
    candidates "10.1.2.3/200" ⊆ candidates "10.255.0.9/8" := by
  have hs : Spelled "10.1.2.3/200" "10.1.2.3" 200 := split?_eq_some_iff.1 (by decide +kernel)
  have hs' : Spelled "10.255.0.9/8" "10.255.0.9" 8 := split?_eq_some_iff.1 (by decide +kernel)
  have hw : Pattern.isWellFormed "10.1.2.3/200" = true := by decide +kernel
  have hw' : Pattern.isWellFormed "10.255.0.9/8" = true := by decide +kernel
  refine ⟨⟨hs, hw⟩, ⟨hs', hw'⟩, ?_⟩
  obtain ⟨a, a', ha, ha', hsub, -⟩ := nested_or_disjoint hs hw hs' hw'
  have hread : Address.parse? "10.1.2.3" = some ⟨.v4, [10, 1, 2, 3], rfl⟩ := by decide +kernel
  have hread' : Address.parse? "10.255.0.9" = some ⟨.v4, [10, 255, 0, 9], rfl⟩ := by decide +kernel
  obtain rfl := Option.some.inj (hread.symm.trans ha)
  obtain rfl := Option.some.inj (hread'.symm.trans ha')
  exact hsub.2 ⟨rfl, by decide, by decide +kernel⟩

end

end Subnet

end AddressGate
