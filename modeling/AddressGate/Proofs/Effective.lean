/-
  Entries that can deny a peer.

  * `Subnet.mapped` is the subnet of the IPv4-mapped IPv6 addresses
    (`mem_span_mapped_iff`), and `span_subset_mapped_iff` says which subnets lie
    in it;
  * `evaluateAddress_singleton_iff`: an entry alone in the blacklist denies the
    peers whose canonical address it stands for; so it is of effect iff it
    stands for an address that is not mapped (`exists_denied_iff`);
  * `exists_denied_peer_iff`: which entries can deny a peer, by their text, and
    which cannot although loading does not warn about them.
-/
import AddressGate.Proofs.Form
import AddressGate.Proofs.Nesting

namespace AddressGate

/-! ## The subnet of mapped addresses -/

namespace Subnet

/-- The addresses that map the IPv4 addresses. -/
def mapped : Subnet := ⟨⟨.v6, Address.mappedHead ++ [0, 0, 0, 0], rfl⟩, 96⟩

theorem mem_span_mapped_iff {x : Address} : x ∈ mapped.span ↔ x.IsMapped := by
  rw [mem_span_iff, contains, Address.sharesPrefix_iff, Address.isMapped_iff_head, eq_comm]
  refine and_congr_right fun hf => ?_
  have hl : Address.mappedHead.length = (x.octets.take 12).length := by
    rw [List.length_take, x.length_octets, hf]; rfl
  have hhead : mapped.base.toNat / 2 ^ 32 = bigEndian Address.mappedHead :=
    Address.toNat_div_of_v6 rfl
  show mapped.base.toNat / 2 ^ 32 = x.toNat / 2 ^ 32 ↔ _
  rw [hhead, Address.toNat_div_of_v6 hf]
  constructor
  · intro h
    exact (bigEndian_inj hl h).symm
  · intro h
    rw [h]

/-- **A subnet has mapped addresses alone iff its base is mapped and its prefix
    reaches behind the mark of mapped addresses.** -/
theorem span_subset_mapped_iff {s : Subnet} :
    (∀ x ∈ s.span, x.IsMapped) ↔ s.base.IsMapped ∧ 96 ≤ s.length := by
  have hsub : (∀ x ∈ s.span, x.IsMapped) ↔ s.span ⊆ mapped.span := by
    simp only [Set.subset_def, mem_span_mapped_iff]
  have hbase : mapped.base.sharesPrefix s.base mapped.length = true ↔ s.base.IsMapped := by
    rw [← mem_span_mapped_iff, mem_span_iff, contains]
  rw [hsub, span_subset_iff, ← hbase]
  constructor
  · rintro ⟨hf, hle, hs⟩
    have hbits : s.base.bits = 128 := Address.bits_congr hf
    have hlen : mapped.length = 96 := rfl
    exact ⟨Address.sharesPrefix_symm hs, by omega⟩
  · rintro ⟨hs, hle⟩
    have hlen : mapped.length = 96 := rfl
    exact ⟨(Address.sharesPrefix_iff.1 hs).1.symm, by omega, Address.sharesPrefix_symm hs⟩

end Subnet

/-! ## What an entry stands for besides mapped addresses -/

namespace Pattern

variable {e address : String} {n : ℕ} {a : Address}

theorem mem_denotation_iff_of_no_slash (h : '/' ∉ e.toList) {x : Address} :
    x ∈ denotation e ↔ x.text = e := by
  constructor
  · rintro (⟨-, hx⟩ | ⟨address, n, base, hs, -⟩)
    · exact hx
    · exact absurd hs.slash_mem h
  · intro hx
    exact Or.inl ⟨h, hx⟩

theorem denotation_of_spelled (hs : Subnet.Spelled e address n)
    (ha : Address.parse? address = some a) : denotation e = Subnet.span ⟨a, n⟩ := by
  ext x
  constructor
  · rintro (⟨h, -⟩ | ⟨address', n', base, hs', ha', hx⟩)
    · exact absurd hs.slash_mem h
    · obtain ⟨rfl, rfl⟩ := hs.unique hs'
      obtain rfl := Option.some.inj (ha.symm.trans ha')
      exact hx
  · intro hx
    exact Or.inr ⟨address, n, a, hs, ha, hx⟩

theorem exists_not_mapped_iff_of_no_slash (h : '/' ∉ e.toList) :
    (∃ x ∈ denotation e, ¬ x.IsMapped) ↔ ∃ a : Address, ¬ a.IsMapped ∧ e = a.text := by
  simp only [mem_denotation_iff_of_no_slash h]
  constructor
  · rintro ⟨x, hx, hm⟩
    exact ⟨x, hm, hx.symm⟩
  · rintro ⟨x, hm, hx⟩
    exact ⟨x, hx.symm, hm⟩

theorem exists_not_mapped_iff_of_spelled (hs : Subnet.Spelled e address n)
    (ha : Address.parse? address = some a) :
    (∃ x ∈ denotation e, ¬ x.IsMapped) ↔ ¬ (a.IsMapped ∧ 96 ≤ n) := by
  rw [denotation_of_spelled hs ha, ← Subnet.span_subset_mapped_iff (s := ⟨a, n⟩)]
  simp

/-- The entry is a subnet of mapped addresses alone. -/
def IsMappedSubnet (e : String) : Prop :=
  ∃ address n a, Subnet.Spelled e address n ∧ Address.parse? address = some a ∧
    a.IsMapped ∧ 96 ≤ n

theorem IsMappedSubnet.slash_mem (h : IsMappedSubnet e) : '/' ∈ e.toList := by
  obtain ⟨address, n, a, hs, -⟩ := h
  exact hs.slash_mem

theorem IsMappedSubnet.isWellFormed (h : IsMappedSubnet e) : isWellFormed e = true := by
  obtain ⟨address, n, a, hs, ha, -⟩ := h
  exact (isWellFormed_iff_readable hs.slash_mem).2 ⟨address, n, a, hs, ha⟩

/-- Among the entries with a slash, those are of effect that are well-formed and
    no subnet of mapped addresses. -/
theorem exists_not_mapped_iff_of_slash (h : '/' ∈ e.toList) :
    (∃ x ∈ denotation e, ¬ x.IsMapped) ↔ isWellFormed e = true ∧ ¬ IsMappedSubnet e := by
  by_cases hw : isWellFormed e = true
  · obtain ⟨address, n, a, hs, ha⟩ := (isWellFormed_iff_readable h).1 hw
    rw [exists_not_mapped_iff_of_spelled hs ha, and_iff_right hw, not_iff_not]
    constructor
    · rintro ⟨hm, hle⟩
      exact ⟨address, n, a, hs, ha, hm, hle⟩
    · rintro ⟨address', n', a', hs', ha', hm, hle⟩
      obtain ⟨rfl, rfl⟩ := hs.unique hs'
      obtain rfl := Option.some.inj (ha.symm.trans ha')
      exact ⟨hm, hle⟩
  · rw [denotation_eq_empty h (Bool.not_eq_true _ ▸ hw)]
    simp [hw]

/-- A well-formed specifier that stands for mapped addresses alone. -/
theorem silent_iff_of_slash (h : '/' ∈ e.toList) :
    (isWellFormed e = true ∧ ¬ ∃ x ∈ denotation e, ¬ x.IsMapped) ↔ IsMappedSubnet e := by
  rw [exists_not_mapped_iff_of_slash h]
  constructor
  · rintro ⟨hw, hno⟩
    by_contra hm
    exact hno ⟨hw, hm⟩
  · intro hm
    exact ⟨hm.isWellFormed, fun hno => hno.2 hm⟩

/-- An address in another spelling than the one that is written, or a mapped
    one. -/
theorem silent_iff_of_no_slash (h : '/' ∉ e.toList) :
    (isWellFormed e = true ∧ ¬ ∃ x ∈ denotation e, ¬ x.IsMapped) ↔
      ∃ a, Address.parse? e = some a ∧ (e ≠ a.text ∨ a.IsMapped) := by
  rw [exists_not_mapped_iff_of_no_slash h, isWellFormed_of_no_slash h, Option.isSome_iff_exists]
  constructor
  · rintro ⟨⟨a, ha⟩, hno⟩
    refine ⟨a, ha, ?_⟩
    by_contra hn
    rw [not_or, not_not] at hn
    exact hno ⟨a, hn.2, hn.1⟩
  · rintro ⟨a, ha, hn⟩
    refine ⟨⟨a, ha⟩, ?_⟩
    rintro ⟨b, hm, rfl⟩
    obtain rfl := Option.some.inj (b.parse?_text.symm.trans ha)
    exact hn.elim (fun hne => hne rfl) hm

end Pattern

/-! ## Rules of one entry -/

namespace Rules

/-- An entry alone in the blacklist denies the peers that it stands for. -/
theorem evaluateAddress_singleton_iff {e : String} {ip : Address} :
    ((⟨[e], []⟩ : Rules).evaluateAddress (some ip)).result = .denied ↔
      ip.canonical ∈ Pattern.denotation e := by
  rw [evaluateAddress, evaluate_denied_iff]
  simp [Pattern.matches_text_iff]

/-- Only canonical addresses are looked for, and these are not mapped. -/
theorem exists_denied_iff {e : String} :
    (∃ ip, ((⟨[e], []⟩ : Rules).evaluateAddress (some ip)).result = .denied) ↔
      ∃ x ∈ Pattern.denotation e, ¬ x.IsMapped := by
  simp only [evaluateAddress_singleton_iff, ← Address.exists_canonical_eq_iff]
  constructor
  · rintro ⟨ip, h⟩
    exact ⟨_, h, ip, rfl⟩
  · rintro ⟨_, h, ip, rfl⟩
    exact ⟨ip, h⟩

theorem warnings_singleton_iff {e : String} :
    (⟨[e], []⟩ : Rules).warnings = [] ↔ Pattern.isWellFormed e = true := by
  rw [warnings_eq_nil_iff]
  constructor
  · intro h
    exact h .blacklist e (List.mem_singleton.2 rfl)
  · rintro h (_ | _) f hf
    · rwa [List.mem_singleton.1 hf]
    · cases hf

/-- **Which entries can deny a peer.**  An entry without a slash can iff it is
    what is written for an address that is not mapped; one with a slash iff it is
    well-formed and no subnet of mapped addresses.  So the entries that loading
    does not warn about and that still deny no peer are the addresses in another
    spelling than the one that is written, the mapped addresses, and the subnets
    of mapped addresses. -/
theorem exists_denied_peer_iff (e : String) :
    ((∃ ip, ((⟨[e], []⟩ : Rules).evaluateAddress (some ip)).result = .denied) ↔
      ('/' ∉ e.toList ∧ ∃ a : Address, ¬ a.IsMapped ∧ e = a.text) ∨
      ('/' ∈ e.toList ∧ Pattern.isWellFormed e = true ∧ ¬ Pattern.IsMappedSubnet e)) ∧
    ((⟨[e], []⟩ : Rules).warnings = [] ∧
        (∀ ip, ((⟨[e], []⟩ : Rules).evaluateAddress (some ip)).result = .allowed) ↔
      (∃ a, Address.parse? e = some a ∧ (e ≠ a.text ∨ a.IsMapped)) ∨
        Pattern.IsMappedSubnet e) := by
  have hallowed : (∀ ip, ((⟨[e], []⟩ : Rules).evaluateAddress (some ip)).result = .allowed) ↔
      ¬ ∃ x ∈ Pattern.denotation e, ¬ x.IsMapped := by
    rw [← exists_denied_iff, not_exists]
    refine forall_congr' fun ip => ?_
    cases ((⟨[e], []⟩ : Rules).evaluateAddress (some ip)).result <;> simp
  rw [exists_denied_iff, warnings_singleton_iff, hallowed]
  by_cases h : '/' ∈ e.toList
  · have hread : ¬ ∃ a, Address.parse? e = some a ∧ (e ≠ a.text ∨ a.IsMapped) := by
      rintro ⟨a, ha, -⟩
      exact Address.slash_not_mem_of_parse? ha h
    rw [Pattern.silent_iff_of_slash h, Pattern.exists_not_mapped_iff_of_slash h, or_iff_right hread]
    simp only [h, not_true_eq_false, false_and, false_or, true_and, and_self]
  · have hsubnet : ¬ Pattern.IsMappedSubnet e := fun hm => h hm.slash_mem
    rw [Pattern.silent_iff_of_no_slash h, Pattern.exists_not_mapped_iff_of_no_slash h]
    simp only [h, hsubnet, not_false_eq_true, true_and, false_and, or_false, and_self]

/-- A leading zero makes an entry that no peer matches. -/
example : (⟨["010.0.0.1"], []⟩ : Rules).warnings = [] ∧
    ((⟨["010.0.0.1"], []⟩ : Rules).evaluateAddress (some ⟨.v4, [10, 0, 0, 1], rfl⟩)).result =
      .allowed := by decide +kernel

end Rules

end AddressGate
