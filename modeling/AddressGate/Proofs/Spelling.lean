/-
  What is written for an address is read as that address.

  * `parse?_text`: the text of an address is read as the address, for both
    families;
  * the two steps of reading are taken apart: `groups?_joined` finds the groups
    that were joined, `mapM_groupValue?` their values.
-/
import AddressGate.Address.Spelling
import AddressGate.Proofs.Number
import AddressGate.Proofs.Pieces
import AddressGate.Proofs.Prefix

namespace AddressGate

/-! ## Digits of what is written -/

namespace Text

theorem isDecimalDigit_of_mem_toDigits {n : ℕ} : ∀ c ∈ Nat.toDigits 10 n, isDecimalDigit c = true :=
  fun _ hc => isDecimalDigit_of_isDigit (Nat.isDigit_of_mem_toDigits (by omega) (by omega) hc)

theorem isHexDigit_of_mem_toDigits {n : ℕ} : ∀ c ∈ Nat.toDigits 16 n, isHexDigit c = true := by
  intro c hc
  obtain ⟨d, hd⟩ := Option.isSome_iff_exists.1
    (isSome_digitValue?_of_numberFrom? (numberFrom?_toDigits (by omega) le_rfl n) c hc)
  rw [isHexDigit, (Option.filter_eq_some_iff.1 hd).1]; rfl

end Text

namespace Address

/-! ## Groups -/

theorem isGroup_iff {digit : Char → Bool} {width : ℕ} {cs : List Char} :
    isGroup digit width cs = true ↔ cs ≠ [] ∧ cs.length ≤ width ∧ ∀ c ∈ cs, digit c = true := by
  simp [isGroup, and_assoc]

theorem groups?_eq_some_iff {sep : Char} {digit : Char → Bool} {width count : ℕ} {cs : List Char}
    {gs : List (List Char)} :
    groups? sep digit width count cs = some gs ↔ cs.splitOn sep = gs ∧ gs.length = count ∧
      ∀ g ∈ gs, isGroup digit width g = true := by
  simp only [groups?, List.all_eq_true]
  constructor
  · intro h
    split_ifs at h with hc
    cases h; exact ⟨rfl, hc⟩
  · rintro ⟨rfl, hc⟩
    rw [if_pos hc]

theorem groups?_joined {sep : Char} {digit : Char → Bool} {width count : ℕ} {gs : List (List Char)}
    (hne : gs ≠ []) (hl : gs.length = count) (hg : ∀ g ∈ gs, isGroup digit width g = true)
    (hsep : digit sep = false) :
    groups? sep digit width count ([sep].intercalate gs) = some gs := by
  refine groups?_eq_some_iff.2 ⟨List.splitOn_intercalate sep (fun g hgm hs => ?_) hne, hl, hg⟩
  have h := (isGroup_iff.1 (hg g hgm)).2.2 sep hs
  rw [hsep] at h; cases h

theorem groups?_eq_none {sep : Char} {digit : Char → Bool} {width count : ℕ} {cs : List Char}
    (hs : sep ∉ cs) (hc : count ≠ 1) : groups? sep digit width count cs = none := by
  rw [groups?, List.splitOn_eq_singleton hs]
  exact if_neg fun h => hc h.1.symm

/-- The groups that were written for some numbers are found. -/
theorem groups?_toDigits {sep : Char} {digit : Char → Bool} {base width : ℕ} {ns : List ℕ}
    (hsep : digit sep = false) (hd : ∀ n, ∀ c ∈ Nat.toDigits base n, digit c = true)
    (hb : 1 < base) (hw : 0 < width) (hne : ns ≠ []) (hn : ∀ n ∈ ns, n < base ^ width) :
    groups? sep digit width ns.length ([sep].intercalate (ns.map (Nat.toDigits base))) =
      some (ns.map (Nat.toDigits base)) := by
  refine groups?_joined (by simpa using hne) (List.length_map _) ?_ hsep
  rw [List.forall_mem_map]
  intro n hmem
  exact isGroup_iff.2 ⟨Nat.toDigits_ne_nil, (Nat.length_toDigits_le_iff hb hw).2 (hn n hmem), hd n⟩

theorem mapM_groupValue? {base : ℕ} (h1 : 1 < base) (h16 : base ≤ 16) {ns : List ℕ}
    (h : ∀ n ∈ ns, n < groupBound) :
    (ns.map (Nat.toDigits base)).mapM (groupValue? base) = some ns := by
  induction ns with
  | nil => rfl
  | cons n ns ih =>
    have hn : groupValue? base (Nat.toDigits base n) = some n := by
      rw [groupValue?, Text.number?_toDigits h1 h16, Option.filter_eq_some_iff]
      exact ⟨rfl, by simpa using h n (by simp)⟩
    rw [List.map_cons, List.mapM_cons, hn, ih fun m hm => h m (by simp [hm])]; rfl

/-! ## Octets in pairs -/

theorem groupOctets_pair (hi lo : UInt8) : groupOctets (256 * hi.toNat + lo.toNat) = [hi, lo] := by
  have hhi : hi.toNat < 256 := hi.toNat_lt
  have hlo : lo.toNat < 256 := lo.toNat_lt
  have hq : (256 * hi.toNat + lo.toNat) / 256 = hi.toNat := by omega
  have hr : UInt8.ofNat (256 * hi.toNat + lo.toNat) = lo := by
    rw [← UInt8.toNat_inj, UInt8.toNat_ofNat']; omega
  rw [groupOctets, hq, hr, UInt8.ofNat_toNat]

theorem flatMap_groupOctets_pairs {os : List UInt8} (h : os.length % 2 = 0) :
    (pairs os).flatMap groupOctets = os := by
  fun_induction pairs os with
  | case1 hi lo rest ih =>
    have hrest : rest.length % 2 = 0 := by simp only [List.length_cons] at h; omega
    rw [List.flatMap_cons, groupOctets_pair, ih hrest]; rfl
  | case2 os hos =>
    obtain _ | ⟨o, _ | ⟨p, os⟩⟩ := os
    · rfl
    · simp at h
    · exact absurd rfl (hos o p os)

theorem length_flatMap_groupOctets (ns : List ℕ) :
    (ns.flatMap groupOctets).length = 2 * ns.length := by
  induction ns with
  | nil => rfl
  | cons n ns ih => rw [List.flatMap_cons, List.length_append, ih, groupOctets]; simp; omega

theorem length_pairs (os : List UInt8) : (pairs os).length = os.length / 2 := by
  fun_induction pairs os with
  | case1 hi lo rest ih => simp only [List.length_cons, ih]; omega
  | case2 os hos =>
    obtain _ | ⟨o, _ | ⟨p, os⟩⟩ := os
    · rfl
    · simp
    · exact absurd rfl (hos o p os)

theorem pairs_lt (os : List UInt8) : ∀ g ∈ pairs os, g < 2 ^ 16 := by
  fun_induction pairs os with
  | case1 hi lo rest ih =>
    have hhi : hi.toNat < 256 := hi.toNat_lt
    have hlo : lo.toNat < 256 := lo.toNat_lt
    exact List.forall_mem_cons.2 ⟨by omega, ih⟩
  | case2 => simp

/-! ## Both families -/

theorem ofOctets?_octets (a : Address) : ofOctets? a.family a.octets = some a := by
  rw [ofOctets?, dif_pos a.length_octets]

theorem ofGroups?_groups {a : Address} (h : a.family = .v6) : ofGroups? a.groups = some a := by
  rw [ofGroups?, groups, flatMap_groupOctets_pairs (by rw [a.length_octets, h]; rfl), ← h,
    ofOctets?_octets]

theorem dottedQuad?_text {a : Address} (h : a.family = .v4) :
    dottedQuad? (['.'].intercalate (a.octets.map fun o => Nat.toDigits 10 o.toNat)) = some a := by
  have hl : (a.octets.map UInt8.toNat).length = 4 := by
    rw [List.length_map, a.length_octets, h]; rfl
  have hlt : ∀ n ∈ a.octets.map UInt8.toNat, n < 256 := by
    rw [List.forall_mem_map]
    exact fun o _ => o.toNat_lt
  have hgroups := groups?_toDigits (by decide : Text.isDecimalDigit '.' = false)
    (fun _ => Text.isDecimalDigit_of_mem_toDigits) (by omega) (by omega : 0 < 3)
    (List.ne_nil_of_length_pos (by omega)) fun n hn => (hlt n hn).trans (by omega)
  have hvalues := mapM_groupValue? (by omega : 1 < 10) (by omega)
    fun n hn => (hlt n hn).trans (by decide : 256 < groupBound)
  have hmap : a.octets.map (fun o => Nat.toDigits 10 o.toNat) =
      (a.octets.map UInt8.toNat).map (Nat.toDigits 10) := by rw [List.map_map]; rfl
  have hoctets : (a.octets.map UInt8.toNat).map UInt8.ofNat = a.octets := by
    rw [List.map_map]; exact List.map_id'' (fun o => UInt8.ofNat_toNat) a.octets
  rw [hl] at hgroups
  rw [hmap, dottedQuad?, hgroups, Option.bind_eq_bind, Option.bind_some, hvalues,
    Option.bind_eq_bind, Option.bind_some, hoctets, ← h, ofOctets?_octets]

theorem hexGroups?_text {a : Address} (h : a.family = .v6) :
    hexGroups? ([':'].intercalate (a.groups.map (Nat.toDigits 16))) = some a := by
  have hl : a.groups.length = 8 := by rw [groups, length_pairs, a.length_octets, h]; rfl
  have hlt : ∀ g ∈ a.groups, g < 2 ^ 16 := pairs_lt a.octets
  have hgroups := groups?_toDigits (by decide : Text.isHexDigit ':' = false)
    (fun _ => Text.isHexDigit_of_mem_toDigits) (by omega) (by omega : 0 < 4)
    (List.ne_nil_of_length_pos (by omega)) hlt
  have hvalues := mapM_groupValue? (by omega : 1 < 16) le_rfl hlt
  rw [hl] at hgroups
  rw [hexGroups?, hgroups, Option.bind_eq_bind, Option.bind_some, hvalues,
    Option.bind_eq_bind, Option.bind_some, ofGroups?_groups h]

theorem dottedQuad?_hexGroups (gs : List ℕ) :
    dottedQuad? ([':'].intercalate (gs.map (Nat.toDigits 16))) = none := by
  have hdot : '.' ∉ [':'].intercalate (gs.map (Nat.toDigits 16)) := by
    intro hs
    rcases Text.mem_intercalate hs with h | ⟨g, hg, h⟩
    · cases h
    · obtain ⟨n, -, rfl⟩ := List.mem_map.1 hg
      exact absurd (Text.isHexDigit_of_mem_toDigits _ h) (by decide)
  rw [dottedQuad?, groups?_eq_none hdot (by omega)]; rfl

/-- **What is written for an address is read as that address.** -/
theorem parse?_text (a : Address) : parse? a.text = some a := by
  rw [parse?, text, String.toList_ofList]
  cases h : a.family with
  | v4 => simp only [dottedQuad?_text h]; rfl
  | v6 => simp only [dottedQuad?_hexGroups, hexGroups?_text h]; rfl

theorem text_inj {a b : Address} : a.text = b.text ↔ a = b := by
  constructor
  · intro h
    have hb := b.parse?_text
    rw [← h, a.parse?_text] at hb
    exact Option.some.inj hb
  · rintro rfl
    rfl

end Address

end AddressGate
