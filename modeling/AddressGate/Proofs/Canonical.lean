/-
  IPv4-mapped IPv6 addresses.

  * `Maps ip peer`: the IPv6 address `ip` maps the IPv4 address `peer`, by its
    groups and numbers;
  * `canonical_of_maps` and `canonical_of_not_mapped`: the canonical form of a
    mapped address is the address that it maps, every other address is its own
    canonical form;
  * `IsMapped x`: the address maps some IPv4 address; `exists_canonical_eq_iff`
    says that the others are the canonical forms.
-/
import AddressGate.Proofs.Spelling

namespace AddressGate

namespace Address

/-- The groups in front of the IPv4 address in the IPv6 address that maps it. -/
def mappedGroups : List ℕ := [0, 0, 0, 0, 0, 0xFFFF]

/-- The IPv6 address maps the IPv4 address of its last 32 bits. -/
structure Maps (ip peer : Address) : Prop where
  family_ip : ip.family = .v6
  groups_ip : ip.groups.take 6 = mappedGroups
  family_peer : peer.family = .v4
  toNat_peer : peer.toNat = ip.toNat % 2 ^ 32

theorem pairs_take (os : List UInt8) (k : ℕ) : (pairs os).take k = pairs (os.take (2 * k)) := by
  induction k generalizing os with
  | zero => simp [pairs]
  | succ k ih =>
    obtain _ | ⟨hi, _ | ⟨lo, os⟩⟩ := os
    · simp [pairs]
    · rw [Nat.mul_succ, List.take_succ_cons]; simp [pairs]
    · rw [Nat.mul_succ, List.take_succ_cons, List.take_succ_cons, pairs, pairs, List.take_succ_cons,
        ih]

theorem take_groups_iff {a : Address} (h : a.family = .v6) :
    a.groups.take 6 = mappedGroups ↔ a.octets.take 12 = mappedHead := by
  have hl : (a.octets.take 12).length % 2 = 0 := by rw [List.length_take, a.length_octets, h]; rfl
  rw [groups, pairs_take]
  constructor
  · intro hp
    rw [← flatMap_groupOctets_pairs hl, hp]; rfl
  · intro hp
    rw [hp]; rfl

/-! ## The last 32 bits -/

theorem length_drop_head {ip : Address} (h : ip.family = .v6) : (ip.octets.drop 12).length = 4 := by
  rw [List.length_drop, ip.length_octets, h]; rfl

theorem bigEndian_drop_head_lt {ip : Address} (h : ip.family = .v6) :
    bigEndian (ip.octets.drop 12) < 2 ^ 32 := by
  have hlt := bigEndian_lt (ip.octets.drop 12)
  rwa [length_drop_head h] at hlt

theorem toNat_of_head {ip : Address} (h : ip.family = .v6) :
    ip.toNat = bigEndian (ip.octets.take 12) * 2 ^ 32 + bigEndian (ip.octets.drop 12) := by
  rw [toNat_eq_bigEndian, ← List.take_append_drop 12 ip.octets, bigEndian_append,
    List.take_append_drop, length_drop_head h]

theorem toNat_div_of_v6 {ip : Address} (h : ip.family = .v6) :
    ip.toNat / 2 ^ 32 = bigEndian (ip.octets.take 12) := by
  rw [toNat_of_head h, Nat.add_comm, Nat.add_mul_div_right _ _ (Nat.two_pow_pos 32),
    Nat.div_eq_of_lt (bigEndian_drop_head_lt h), Nat.zero_add]

theorem toNat_mod_of_v6 {ip : Address} (h : ip.family = .v6) :
    ip.toNat % 2 ^ 32 = bigEndian (ip.octets.drop 12) := by
  rw [toNat_of_head h, Nat.mul_add_mod_of_lt (bigEndian_drop_head_lt h)]

/-! ## Mapped addresses -/

/-- Every IPv4 address is mapped. -/
theorem exists_maps {peer : Address} (h : peer.family = .v4) : ∃ ip : Address, ip.Maps peer := by
  have hl : peer.octets.length = 4 := by rw [peer.length_octets, h]; rfl
  have h6 : (mappedHead ++ peer.octets).length = Family.v6.size := by
    rw [List.length_append, hl]; rfl
  obtain ⟨ip, hf, ho⟩ : ∃ ip : Address, ip.family = .v6 ∧ ip.octets = mappedHead ++ peer.octets :=
    ⟨⟨.v6, mappedHead ++ peer.octets, h6⟩, rfl, rfl⟩
  have hhead : mappedHead.length = 12 := rfl
  refine ⟨ip, hf, (take_groups_iff hf).2 (by rw [ho, List.take_left' hhead]), h, ?_⟩
  rw [toNat_mod_of_v6 hf, ho, List.drop_left' hhead, ← toNat_eq_bigEndian]

/-- **A mapped address becomes the address that it maps.** -/
theorem canonical_of_maps {ip peer : Address} (h : ip.Maps peer) : ip.canonical = peer := by
  have hhead := (take_groups_iff h.family_ip).1 h.groups_ip
  rw [canonical, dif_pos ⟨h.family_ip, hhead⟩]
  refine toNat_inj h.family_peer.symm ?_
  rw [h.toNat_peer, toNat_mod_of_v6 h.family_ip]; rfl

theorem canonical_of_not_mapped {ip : Address}
    (h : ¬ (ip.family = .v6 ∧ ip.groups.take 6 = mappedGroups)) : ip.canonical = ip := by
  rw [canonical, dif_neg]
  rintro ⟨hf, hhead⟩
  exact h ⟨hf, (take_groups_iff hf).2 hhead⟩

theorem canonical_of_v4 {a : Address} (h : a.family = .v4) : a.canonical = a :=
  canonical_of_not_mapped fun hm => by rw [h] at hm; cases hm.1

/-- The address is an IPv6 address that maps some IPv4 address. -/
def IsMapped (x : Address) : Prop := x.family = .v6 ∧ x.groups.take 6 = mappedGroups

theorem isMapped_iff_head {x : Address} :
    x.IsMapped ↔ x.family = .v6 ∧ x.octets.take 12 = mappedHead :=
  and_congr_right take_groups_iff

/-- **The canonical forms are the addresses that map no other.** -/
theorem exists_canonical_eq_iff {x : Address} :
    (∃ ip : Address, ip.canonical = x) ↔ ¬ x.IsMapped := by
  constructor
  · rintro ⟨ip, rfl⟩ hx
    by_cases hip : ip.IsMapped
    · rw [canonical, dif_pos (isMapped_iff_head.1 hip)] at hx
      cases hx.1
    · rw [canonical_of_not_mapped hip] at hx
      exact hip hx
  · intro hx
    exact ⟨x, canonical_of_not_mapped hx⟩

end Address

end AddressGate
