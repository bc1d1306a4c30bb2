/-
  The two forms of an address, as grammars.

  * `Grouped sep digit width count cs gs`: the text is made of `count` groups of
    one to `width` digits each, with a separator between each two; it is stated
    by joining and not by cutting.  `IsDottedQuad` and `IsHexGroups` are the two
    instances;
  * `Form s b`: the text is of one of the two forms, and the octets of `b` are
    the values of its groups;
  * `groupValue?_ten_eq_some_iff` and `groupValue?_sixteen_eq_some_iff`: which
    groups of the right shape have a value;
  * `parse?_two_forms`: reading accepts the two forms and gives these values, and
    accepts nothing else.
-/
import AddressGate.Proofs.Spelling
import AddressGate.Text.Blank

namespace AddressGate.Address

variable {s : String} {b : Address} {g : List Char} {gs : List (List Char)} {n : ℕ}

/-! ## Grammars -/

/-- `count` groups of one to `width` digits, a separator between each two. -/
structure Grouped (sep : Char) (digit : Char → Prop) (width count : ℕ) (cs : List Char)
    (gs : List (List Char)) : Prop where
  text : [sep].intercalate gs = cs
  length : gs.length = count
  group : ∀ g ∈ gs, g ≠ [] ∧ g.length ≤ width ∧ ∀ c ∈ g, digit c

/-- Four groups of one to three decimal digits. -/
def IsDottedQuad (s : String) (gs : List (List Char)) : Prop :=
  Grouped '.' (fun c => c.isDigit = true) 3 4 s.toList gs

/-- Eight groups of one to four hexadecimal digits of either case. -/
def IsHexGroups (s : String) (gs : List (List Char)) : Prop :=
  Grouped ':' (fun c => c.toLower ∈ Text.hexDigits) 4 8 s.toList gs

/-- The text is of one of the two forms, and these are the octets of its
    groups: a decimal group counts modulo 256, a hexadecimal group is a high and
    a low octet. -/
inductive Form (s : String) (b : Address) : Prop
  | dottedQuad {gs : List (List Char)} (hs : IsDottedQuad s gs) (hf : b.family = .v4)
      (hb : b.octets.map UInt8.toNat = gs.map fun g => Nat.ofDigitChars 10 g 0 % 256)
  | hexGroups {gs : List (List Char)} (hs : IsHexGroups s gs) (hf : b.family = .v6)
      (hb : b.octets.map UInt8.toNat =
        gs.flatMap fun g => [Text.ofHexDigits g / 256, Text.ofHexDigits g % 256])

section
variable {sep : Char} {digit : Char → Prop} {width count : ℕ} {cs : List Char}

theorem Grouped.mem (h : Grouped sep digit width count cs gs) {c : Char} (hc : c ∈ cs) :
    c = sep ∨ digit c := by
  rw [← h.text] at hc
  rcases Text.mem_intercalate hc with hc | ⟨g, hg, hc⟩
  · exact Or.inl hc
  · exact Or.inr ((h.group g hg).2.2 c hc)

theorem Grouped.sep_mem (h : Grouped sep digit width count cs gs) (hc : 1 < count) : sep ∈ cs := by
  obtain ⟨p, q, ps, rfl⟩ : ∃ p q ps, gs = p :: q :: ps := by
    obtain _ | ⟨p, _ | ⟨q, ps⟩⟩ := gs
    · have := h.length; simp at this; omega
    · have := h.length; simp at this; omega
    · exact ⟨p, q, ps, rfl⟩
  rw [← h.text, List.intercalate_cons_cons]
  simp

/-- The pieces of a text are the only groups that it may have. -/
theorem groups?_eq_some_iff_grouped {digit : Char → Bool} (hsep : digit sep = false)
    (hc : 0 < count) : groups? sep digit width count cs = some gs ↔
      Grouped sep (fun c => digit c = true) width count cs gs := by
  constructor
  · intro h
    obtain ⟨hp, hl, hg⟩ := groups?_eq_some_iff.1 h
    exact ⟨hp ▸ List.intercalate_splitOn sep, hl, fun g hm => isGroup_iff.1 (hg g hm)⟩
  · rintro ⟨rfl, hl, hg⟩
    exact groups?_joined (List.ne_nil_of_length_pos (hl ▸ hc)) hl
      (fun g hm => isGroup_iff.2 (hg g hm)) hsep

end

/-! ## Values of groups -/

theorem groupValue?_eq_some_iff {base : ℕ} (hne : g ≠ []) (hb : base ^ g.length ≤ groupBound) :
    groupValue? base g = some n ↔ Text.numberFrom? base 0 g = some n := by
  have hnumber : Text.number? base g = Text.numberFrom? base 0 g := by
    obtain _ | ⟨c, g⟩ := g
    · exact absurd rfl hne
    · rfl
  rw [groupValue?, hnumber, Option.filter_eq_some_iff, decide_eq_true_eq]
  refine and_iff_left_of_imp fun h => ?_
  have hlt := Text.numberFrom?_lt h
  omega

/-- A group of decimal digits has a value iff the digits are those of ASCII. -/
theorem groupValue?_ten_eq_some_iff (h : isGroup Text.isDecimalDigit 3 g = true) :
    groupValue? 10 g = some n ↔
      (∀ c ∈ g, c.isDigit = true) ∧ Nat.ofDigitChars 10 g 0 = n := by
  obtain ⟨hne, hl, -⟩ := isGroup_iff.1 h
  have hb : 10 ^ g.length ≤ groupBound :=
    (Nat.pow_le_pow_right (by omega) hl).trans (by decide)
  rw [groupValue?_eq_some_iff hne hb, Text.numberFrom?_ten_eq_some_iff]

theorem groupValue?_ten_eq_none_iff (h : isGroup Text.isDecimalDigit 3 g = true) :
    groupValue? 10 g = none ↔ ∃ c ∈ g, Text.isDecimalDigit c = true ∧ c.isDigit = false := by
  have hd := (isGroup_iff.1 h).2.2
  rw [Option.eq_none_iff_forall_ne_some]
  simp only [ne_eq, groupValue?_ten_eq_some_iff h]
  constructor
  · intro hno
    by_contra hall
    refine hno _ ⟨fun c hc => ?_, rfl⟩
    by_contra hn
    exact hall ⟨c, hc, hd c hc, by simpa using hn⟩
  · rintro ⟨c, hc, -, hn⟩ n ⟨hall, -⟩
    rw [hall c hc] at hn
    cases hn

/-- A group of hexadecimal digits always has a value. -/
theorem groupValue?_sixteen (h : isGroup Text.isHexDigit 4 g = true) :
    groupValue? 16 g = some (Text.ofHexDigits g) := by
  obtain ⟨hne, hl, hd⟩ := isGroup_iff.1 h
  have hb : 16 ^ g.length ≤ groupBound := Nat.pow_le_pow_right (by omega) hl
  rw [groupValue?_eq_some_iff hne hb, Text.numberFrom?_sixteen_eq_some_iff]
  exact ⟨fun c hc => Text.isHexDigit_iff.1 (hd c hc), rfl⟩

/-- The values of such groups are of 16 bits. -/
theorem values_lt (h : ∀ g ∈ gs, isGroup Text.isHexDigit 4 g = true) :
    ∀ n ∈ gs.map Text.ofHexDigits, n < 2 ^ 16 := by
  rw [List.forall_mem_map]
  intro g hg
  exact of_decide_eq_true (Option.filter_eq_some_iff.1 (groupValue?_sixteen (h g hg))).2

theorem mapM_eq_some_iff {α β : Type} {f : α → Option β} {P : α → Prop} {v : α → β} {xs : List α}
    {ys : List β} (h : ∀ x ∈ xs, ∀ y, f x = some y ↔ P x ∧ v x = y) :
    xs.mapM f = some ys ↔ (∀ x ∈ xs, P x) ∧ xs.map v = ys := by
  induction xs generalizing ys with
  | nil => simp
  | cons x xs ih =>
    have hx := h x List.mem_cons_self
    have hxs := fun {ys} => @ih ys fun x hm => h x (List.mem_cons_of_mem _ hm)
    simp only [List.mapM_cons, Option.bind_eq_bind, Option.bind_eq_some_iff, Option.pure_def,
      Option.some_inj, hx, hxs, List.forall_mem_cons, List.map_cons]
    constructor
    · rintro ⟨_, ⟨hp, rfl⟩, _, ⟨hps, rfl⟩, rfl⟩
      exact ⟨⟨hp, hps⟩, rfl⟩
    · rintro ⟨⟨hp, hps⟩, rfl⟩
      exact ⟨_, ⟨hp, rfl⟩, _, ⟨hps, rfl⟩, rfl⟩

theorem mapM_groupValue?_ten {ns : List ℕ}
    (h : ∀ g ∈ gs, isGroup Text.isDecimalDigit 3 g = true) :
    gs.mapM (groupValue? 10) = some ns ↔
      (∀ g ∈ gs, ∀ c ∈ g, c.isDigit = true) ∧ gs.map (Nat.ofDigitChars 10 · 0) = ns :=
  mapM_eq_some_iff fun g hg _ => groupValue?_ten_eq_some_iff (h g hg)

theorem mapM_groupValue?_sixteen (h : ∀ g ∈ gs, isGroup Text.isHexDigit 4 g = true) :
    gs.mapM (groupValue? 16) = some (gs.map Text.ofHexDigits) := by
  refine (mapM_eq_some_iff (P := fun _ => True) fun g hg n => ?_).2 ⟨fun _ _ => trivial, rfl⟩
  rw [groupValue?_sixteen (h g hg), Option.some_inj, true_and]

/-! ## Octets -/

theorem ofOctets?_eq_some_iff {f : Family} {os : List UInt8} :
    ofOctets? f os = some b ↔ b.family = f ∧ b.octets = os := by
  constructor
  · intro h
    unfold ofOctets? at h
    split at h
    · cases h; exact ⟨rfl, rfl⟩
    · cases h
  · rintro ⟨rfl, rfl⟩
    exact ofOctets?_octets b

theorem eq_map_ofNat_iff {os : List UInt8} {ns : List ℕ} :
    os = ns.map UInt8.ofNat ↔ os.map UInt8.toNat = ns.map (· % 256) := by
  have hmod : (ns.map UInt8.ofNat).map UInt8.toNat = ns.map (· % 256) := by
    rw [List.map_map]
    exact List.map_congr_left fun n _ => UInt8.toNat_ofNat'
  rw [← hmod]
  exact (List.map_injective_iff.2 fun o p h => UInt8.toNat_inj.1 h).eq_iff.symm

theorem eq_flatMap_groupOctets_iff {os : List UInt8} {ns : List ℕ} (h : ∀ n ∈ ns, n < 2 ^ 16) :
    os = ns.flatMap groupOctets ↔ os.map UInt8.toNat = ns.flatMap fun n => [n / 256, n % 256] := by
  have hmap : ns.flatMap groupOctets = (ns.flatMap fun n => [n / 256, n]).map UInt8.ofNat := by
    rw [List.map_flatMap]; rfl
  rw [hmap, eq_map_ofNat_iff, List.map_flatMap]
  refine Eq.congr_right (List.flatMap_congr fun n hn => ?_)
  have hlt := h n hn
  simp only [List.map_cons, List.map_nil]
  rw [Nat.mod_eq_of_lt (by omega : n / 256 < 256)]

/-! ## Reading -/

theorem isDottedQuad_iff : IsDottedQuad s gs ↔
    groups? '.' Text.isDecimalDigit 3 4 s.toList = some gs ∧
      ∀ g ∈ gs, ∀ c ∈ g, c.isDigit = true := by
  rw [groups?_eq_some_iff_grouped (by decide) (by omega)]
  constructor
  · rintro ⟨ht, hl, hg⟩
    refine ⟨⟨ht, hl, fun g hm => ?_⟩, fun g hm => (hg g hm).2.2⟩
    obtain ⟨hne, hw, hd⟩ := hg g hm
    exact ⟨hne, hw, fun c hc => Text.isDecimalDigit_of_isDigit (hd c hc)⟩
  · rintro ⟨⟨ht, hl, hg⟩, hd⟩
    exact ⟨ht, hl, fun g hm => ⟨(hg g hm).1, (hg g hm).2.1, hd g hm⟩⟩

theorem isHexGroups_iff :
    IsHexGroups s gs ↔ groups? ':' Text.isHexDigit 4 8 s.toList = some gs := by
  rw [groups?_eq_some_iff_grouped (by decide) (by omega)]
  simp only [IsHexGroups, Text.isHexDigit_iff]

theorem dottedQuad?_eq_some_iff : dottedQuad? s.toList = some b ↔
    ∃ gs, IsDottedQuad s gs ∧ b.family = .v4 ∧
      b.octets.map UInt8.toNat = gs.map fun g => Nat.ofDigitChars 10 g 0 % 256 := by
  simp only [dottedQuad?, Option.bind_eq_bind, Option.bind_eq_some_iff, ofOctets?_eq_some_iff,
    eq_map_ofNat_iff, isDottedQuad_iff, and_assoc]
  constructor
  · rintro ⟨gs, hgs, ns, hns, hf, hb⟩
    obtain ⟨hd, rfl⟩ := (mapM_groupValue?_ten (groups?_eq_some_iff.1 hgs).2.2).1 hns
    exact ⟨gs, hgs, hd, hf, by rw [hb, List.map_map]; rfl⟩
  · rintro ⟨gs, hgs, hd, hf, hb⟩
    have hns := (mapM_groupValue?_ten (groups?_eq_some_iff.1 hgs).2.2).2 ⟨hd, rfl⟩
    exact ⟨gs, hgs, _, hns, hf, by rw [hb, List.map_map]; rfl⟩

theorem hexGroups?_eq_some_iff : hexGroups? s.toList = some b ↔
    ∃ gs, IsHexGroups s gs ∧ b.family = .v6 ∧ b.octets.map UInt8.toNat =
      gs.flatMap fun g => [Text.ofHexDigits g / 256, Text.ofHexDigits g % 256] := by
  simp only [hexGroups?, Option.bind_eq_bind, Option.bind_eq_some_iff, ofGroups?,
    ofOctets?_eq_some_iff, isHexGroups_iff]
  refine exists_congr fun gs => and_congr_right fun hgs => ?_
  have hg := (groups?_eq_some_iff.1 hgs).2.2
  rw [mapM_groupValue?_sixteen hg]
  simp only [Option.some_inj, exists_eq_left']
  rw [eq_flatMap_groupOctets_iff (values_lt hg), List.flatMap_map]

theorem IsDottedQuad.colon_not_mem (h : IsDottedQuad s gs) : ':' ∉ s.toList := by
  intro hc
  rcases h.mem hc with hc | hc <;> exact absurd hc (by decide)

theorem IsHexGroups.dot_not_mem (h : IsHexGroups s gs) : '.' ∉ s.toList := by
  intro hc
  rcases h.mem hc with hc | hc <;> exact absurd hc (by decide)

/-- No text is of both forms: the separator of the one is no part of the other. -/
theorem IsDottedQuad.not_isHexGroups {hs : List (List Char)} (h : IsDottedQuad s gs) :
    ¬ IsHexGroups s hs :=
  fun h' => h.colon_not_mem (h'.sep_mem (by omega))

/-- **Reading accepts the two forms, with the values of their groups.** -/
theorem parse?_eq_some_iff : parse? s = some b ↔ Form s b := by
  rw [parse?, Option.orElse_eq_some]
  constructor
  · rintro (h | ⟨-, h⟩)
    · obtain ⟨gs, hs, hf, hb⟩ := dottedQuad?_eq_some_iff.1 h
      exact .dottedQuad hs hf hb
    · obtain ⟨gs, hs, hf, hb⟩ := hexGroups?_eq_some_iff.1 h
      exact .hexGroups hs hf hb
  · rintro (⟨hs, hf, hb⟩ | ⟨hs, hf, hb⟩)
    · exact Or.inl (dottedQuad?_eq_some_iff.2 ⟨_, hs, hf, hb⟩)
    · refine Or.inr ⟨?_, hexGroups?_eq_some_iff.2 ⟨_, hs, hf, hb⟩⟩
      refine Option.eq_none_iff_forall_ne_some.2 fun b' h' => ?_
      obtain ⟨gs, hs', -, -⟩ := dottedQuad?_eq_some_iff.1 h'
      exact hs'.not_isHexGroups hs

/-- Every text of one of the two forms is read. -/
theorem parse?_eq_none_iff :
    parse? s = none ↔ (∀ gs, ¬ IsDottedQuad s gs) ∧ ∀ gs, ¬ IsHexGroups s gs := by
  rw [Option.eq_none_iff_forall_ne_some]
  constructor
  · intro h
    refine ⟨fun gs hs => ?_, fun gs hs => ?_⟩
    · have hl : (gs.map fun g => UInt8.ofNat (Nat.ofDigitChars 10 g 0)).length =
          Family.v4.size := by
        rw [List.length_map, hs.length]; rfl
      refine h ⟨.v4, _, hl⟩ (parse?_eq_some_iff.2 (.dottedQuad hs rfl ?_))
      rw [List.map_map]
      exact List.map_congr_left fun g _ => UInt8.toNat_ofNat'
    · have hg := (groups?_eq_some_iff.1 (isHexGroups_iff.1 hs)).2.2
      have hl : ((gs.map Text.ofHexDigits).flatMap groupOctets).length = Family.v6.size := by
        rw [length_flatMap_groupOctets, List.length_map, hs.length]; rfl
      refine h ⟨.v6, _, hl⟩ (parse?_eq_some_iff.2 (.hexGroups hs rfl ?_))
      rw [(eq_flatMap_groupOctets_iff (values_lt hg)).1 rfl, List.flatMap_map]
  · rintro ⟨h4, h6⟩ b hb
    cases parse?_eq_some_iff.1 hb with
    | dottedQuad hs => exact h4 _ hs
    | hexGroups hs => exact h6 _ hs

/-! ## Texts of neither form -/

/-- A separator or an ASCII digit, of the decimal or of the hexadecimal ones. -/
def IsPlain (c : Char) : Prop :=
  c = '.' ∨ c = ':' ∨ c.isDigit = true ∨ c.toLower ∈ Text.hexDigits

instance : DecidablePred IsPlain := fun _ => inferInstanceAs (Decidable (_ ∨ _ ∨ _ ∨ _))

theorem Form.isPlain (h : Form s b) {c : Char} (hc : c ∈ s.toList) : IsPlain c := by
  cases h with
  | dottedQuad hs =>
    rcases hs.mem hc with hc | hc
    · exact Or.inl hc
    · exact Or.inr (Or.inr (Or.inl hc))
  | hexGroups hs =>
    rcases hs.mem hc with hc | hc
    · exact Or.inr (Or.inl hc)
    · exact Or.inr (Or.inr (Or.inr hc))

/-- What is read as an address is no specifier. -/
theorem slash_not_mem_of_parse? (h : parse? s = some b) : '/' ∉ s.toList :=
  fun hs => absurd ((parse?_eq_some_iff.1 h).isPlain hs) (by decide)

theorem slash_not_mem_text (x : Address) : '/' ∉ x.text.toList :=
  slash_not_mem_of_parse? x.parse?_text

theorem ne_empty_of_parse? (h : parse? s = some b) : s ≠ "" := by
  rintro rfl
  have hnone : parse? "" = none := by decide
  rw [hnone] at h
  cases h

theorem IsPlain.toNat_lt {c : Char} (h : IsPlain c) : c.toNat < 128 := by
  rcases h with rfl | rfl | h | h
  · decide
  · decide
  · have h9 : c.toNat ≤ '9'.toNat := UInt32.le_iff_toNat_le.1 (Text.isDigit_iff_le.1 h).2
    exact h9.trans_lt (by decide)
  · exact Text.toNat_lt_of_toLower_mem_hexDigits h

theorem IsPlain.spec {c : Char} (h : IsPlain c) :
    Text.isBlank c = false ∧ (Text.isDecimalDigit c = true → c.isDigit = true) := by
  have hall : ∀ k : Fin 128, IsPlain (Char.ofNat k) → Text.isBlank (Char.ofNat k) = false ∧
      (Text.isDecimalDigit (Char.ofNat k) = true → (Char.ofNat k).isDigit = true) := by
    decide +kernel
  have hc := hall ⟨c.toNat, h.toNat_lt⟩
  rw [Char.ofNat_toNat] at hc
  exact hc h

/-- Two colons in a row enclose an empty group. -/
theorem Form.no_double_colon (h : Form s b) : ¬ [':', ':'] <:+: s.toList := by
  rintro ⟨p, q, hpq⟩
  cases h with
  | dottedQuad hs => exact hs.colon_not_mem (by rw [← hpq]; simp)
  | @hexGroups gs hs =>
    obtain ⟨hp, -, hg⟩ := groups?_eq_some_iff.1 (isHexGroups_iff.1 hs)
    have hnil : [] ∈ gs := by
      rw [← hp, ← hpq, List.append_assoc, List.cons_append,
        List.splitOn_append_cons_self, List.cons_append,
        ← List.nil_append (':' :: ([] ++ q)), List.splitOn_append_cons_self, List.splitOn_nil]
      simp
    exact (isGroup_iff.1 (hg [] hnil)).1 rfl

theorem Form.not_both_separators (h : Form s b) : ¬ ('.' ∈ s.toList ∧ ':' ∈ s.toList) := by
  rintro ⟨hdot, hcolon⟩
  cases h with
  | dottedQuad hs => exact hs.colon_not_mem hcolon
  | hexGroups hs => exact hs.dot_not_mem hdot

/-- **Reading addresses is exactly the two forms.**  A text is read as an
    address iff it is of one of the two forms with the octets of the address, and
    is not read iff it is of neither; no text is of both.  So nothing is read
    from a text with a blank character or a decimal digit that is not of ASCII,
    with two colons in a row, or with both separators.  Cutting a text into
    groups of the right shape leaves one reason for a group to have no value: a
    digit that is not of ASCII, in a decimal group. -/
theorem parse?_two_forms (s : String) :
    (∀ b, parse? s = some b ↔ Form s b) ∧
    (parse? s = none ↔ (∀ gs, ¬ IsDottedQuad s gs) ∧ ∀ gs, ¬ IsHexGroups s gs) ∧
    (∀ gs hs, ¬ (IsDottedQuad s gs ∧ IsHexGroups s hs)) ∧
    ((∃ c ∈ s.toList, Text.isDecimalDigit c = true ∧ c.isDigit = false) ∨
      (∃ c ∈ s.toList, Text.isBlank c = true) ∨ [':', ':'] <:+: s.toList ∨
      ('.' ∈ s.toList ∧ ':' ∈ s.toList) → parse? s = none) ∧
    (∀ gs, groups? '.' Text.isDecimalDigit 3 4 s.toList = some gs → ∀ g ∈ gs,
      (groupValue? 10 g = none ↔ ∃ c ∈ g, Text.isDecimalDigit c = true ∧ c.isDigit = false)) ∧
    ∀ gs, groups? ':' Text.isHexDigit 4 8 s.toList = some gs → ∀ g ∈ gs,
      groupValue? 16 g ≠ none := by
  refine ⟨fun b => parse?_eq_some_iff, parse?_eq_none_iff,
    fun gs hs h => h.1.not_isHexGroups h.2, fun h => ?_, fun gs hgs g hg => ?_,
    fun gs hgs g hg => ?_⟩
  · refine Option.eq_none_iff_forall_ne_some.2 fun b hb => ?_
    have hform := parse?_eq_some_iff.1 hb
    rcases h with ⟨c, hc, hd, hn⟩ | ⟨c, hc, hblank⟩ | hcolons | hboth
    · rw [(hform.isPlain hc).spec.2 hd] at hn; cases hn
    · rw [(hform.isPlain hc).spec.1] at hblank; cases hblank
    · exact hform.no_double_colon hcolons
    · exact hform.not_both_separators hboth
  · exact groupValue?_ten_eq_none_iff ((groups?_eq_some_iff.1 hgs).2.2 g hg)
  · rw [groupValue?_sixteen ((groups?_eq_some_iff.1 hgs).2.2 g hg)]
    exact Option.some_ne_none _

/-- Groups above 255 keep their low eight bits. -/
example : (parse? "999.256.0.1").map octets = some [231, 0, 0, 1] := by decide +kernel

end AddressGate.Address
