/-
  Decisions about peers, as sets of addresses.

  * `Subnet.span` are the addresses of a subnet as an interval of numbers,
    `Pattern.denotation` the addresses that an entry stands for;
  * `matches_text_iff`: the text of an address matches an entry iff the entry
    stands for the address;
  * `evaluate_denied_iff`: the decision for a remote text, by the entries that
    match it;
  * `denied_iff_denotation`: the decision for a peer, by the sets that the
    entries of both lists stand for.
-/
import AddressGate.Proofs.Canonical
import AddressGate.Proofs.WellFormed
import AddressGate.Rules.Evaluation

namespace AddressGate

/-! ## What an entry stands for -/

namespace Subnet

/-- The number of bits of an address behind the prefix. -/
def freeBits (s : Subnet) : ℕ := s.base.bits - min s.length s.base.bits

/-- The number of the first address: that of the base, rounded down. -/
def first (s : Subnet) : ℕ := s.base.toNat / 2 ^ s.freeBits * 2 ^ s.freeBits

/-- The addresses of the family from the first address on, `2 ^ freeBits` of
    them. -/
def span (s : Subnet) : Set Address :=
  {x | x.family = s.base.family ∧ s.first ≤ x.toNat ∧ x.toNat ≤ s.first + 2 ^ s.freeBits - 1}

/-- **A subnet is an interval of addresses.** -/
theorem mem_span_iff {s : Subnet} {x : Address} : x ∈ s.span ↔ s.contains x = true := by
  have hbits : s.base.bits - s.length = s.freeBits := by rw [freeBits]; omega
  rw [contains, Address.sharesPrefix_iff, hbits, span, Set.mem_ofPred_eq, eq_comm, first,
    eq_comm (a := s.base.toNat / _), Nat.div_eq_iff (Nat.two_pow_pos _)]

end Subnet

namespace Pattern

/-- The addresses that an entry stands for: the one that is written so, or
    those of the subnet. -/
def denotation (entry : String) : Set Address :=
  {x | '/' ∉ entry.toList ∧ x.text = entry} ∪
    {x | ∃ address n base, Subnet.Spelled entry address n ∧ Address.parse? address = some base ∧
      x ∈ Subnet.span ⟨base, n⟩}

/-- **The text of an address matches the entries that stand for it.** -/
theorem matches_text_iff {x : Address} {entry : String} :
    Matches x.text entry ↔ x ∈ denotation entry := by
  constructor
  · rintro (⟨h, he⟩ | ⟨-, h⟩)
    · exact Or.inl ⟨h, he.symm⟩
    · obtain ⟨address, n, base, b, hs, ha, hc, h⟩ := Subnet.holds_result_iff.1 h
      rw [Address.parse?_text] at hc
      cases hc
      exact Or.inr ⟨address, n, base, hs, ha, Subnet.mem_span_iff.2 h⟩
  · rintro (⟨h, he⟩ | ⟨address, n, base, hs, ha, h⟩)
    · exact Or.inl ⟨h, he.symm⟩
    · exact Or.inr ⟨hs.slash_mem, Subnet.holds_result_iff.2
        ⟨address, n, base, x, hs, ha, x.parse?_text, Subnet.mem_span_iff.1 h⟩⟩

/-- A specifier that is not well-formed stands for nothing. -/
theorem denotation_eq_empty {entry : String} (hs : '/' ∈ entry.toList)
    (hw : isWellFormed entry = false) : denotation entry = ∅ := by
  rw [Set.eq_empty_iff_forall_notMem]
  intro x hx
  exact never_matches_iff.2 ⟨hs, hw⟩ x.text (matches_text_iff.2 hx)

end Pattern

/-! ## Decisions -/

namespace Rules

theorem lists_result_iff {r : Rules} {list : ListName} {remote : String} :
    (r.lists list remote).result = true ↔ ∃ e ∈ r.entries list, Pattern.Matches remote e :=
  Pattern.anyAccepts_result_iff

/-- **A remote text is denied iff the blacklist matches it, or a whitelist with
    entries does not.** -/
theorem evaluate_denied_iff {r : Rules} {remote : String} :
    (r.evaluate remote).result = .denied ↔
      (∃ e ∈ r.blacklist, Pattern.Matches remote e) ∨
        (r.whitelist ≠ [] ∧ ∀ e ∈ r.whitelist, ¬ Pattern.Matches remote e) := by
  have hblack := @lists_result_iff r .blacklist remote
  have hwhite := @lists_result_iff r .whitelist remote
  simp only [entries] at hblack hwhite
  rw [← hblack]
  have hno : (∀ e ∈ r.whitelist, ¬ Pattern.Matches remote e) ↔
      (r.lists .whitelist remote).result = false := by
    rw [← Bool.not_eq_true, hwhite]; simp
  rw [hno, evaluate, Reported.result_bind]
  cases (r.lists .blacklist remote).result with
  | true => simp [deny]
  | false =>
    by_cases hw : r.whitelist = []
    · simp [hw]
    · rw [if_neg Bool.false_ne_true, if_neg (by simpa using hw), Reported.result_bind]
      cases (r.lists .whitelist remote).result with
      | true => simp
      | false => simp [deny, hw]

/-- **The decision for a peer, as sets of addresses.**  A peer is denied iff an
    entry of the blacklist stands for its canonical address, or there is a
    whitelist and none of its entries does.  The IPv4-mapped form of an IPv4
    peer, which always exists, gets the same decision with the same report. -/
theorem denied_iff_denotation (r : Rules) (ip : Address) :
    ((r.evaluateAddress (some ip)).result = .denied ↔
      (∃ e ∈ r.blacklist, ip.canonical ∈ Pattern.denotation e) ∨
        (r.whitelist ≠ [] ∧ ∀ e ∈ r.whitelist, ip.canonical ∉ Pattern.denotation e)) ∧
    (∀ peer, ip.Maps peer → ip.canonical = peer) ∧
    (¬ (ip.family = .v6 ∧ ip.groups.take 6 = [0, 0, 0, 0, 0, 0xFFFF]) → ip.canonical = ip) ∧
    (∀ e, '/' ∈ e.toList → Pattern.isWellFormed e = false → Pattern.denotation e = ∅) ∧
    ∀ peer : Address, peer.family = .v4 → (∃ ip : Address, ip.Maps peer) ∧
      ∀ ip : Address, ip.Maps peer →
        r.evaluateAddress (some ip) = r.evaluateAddress (some peer) := by
  refine ⟨?_, fun peer => Address.canonical_of_maps, Address.canonical_of_not_mapped,
    fun e => Pattern.denotation_eq_empty, fun peer h4 => ⟨Address.exists_maps h4, fun ip h => ?_⟩⟩
  · simp only [evaluateAddress, evaluate_denied_iff, Pattern.matches_text_iff]
  · rw [evaluateAddress, evaluateAddress, Address.canonical_of_maps h,
      Address.canonical_of_v4 h.family_peer]

end Rules

end AddressGate
