/-
  Spellings of addresses without a redundant digit.

  * `Text.IsTerse ds`: a row of digits in lower case that has no leading zero
    unless it is a zero alone; these are the rows that are written for numbers
    (`isTerse_toDigits`, `eq_toDigits_of_isTerse`);
  * `Address.IsTerse f s`: the text is an address of the family in terse groups;
    `isTerse_iff_text` says that these are the texts that are written for
    addresses;
  * `text_terse`: writing and reading undo each other, and what is written for
    an address is the one terse text among those that are read as it.
-/
import Mathlib.Data.Set.Function
import AddressGate.Proofs.Spelling

namespace AddressGate

/-! ## Rows of digits -/

namespace Text

/-- A digit below sixteen that is no capital letter. -/
def IsLowerDigit (c : Char) : Prop := c.isDigit = true ∨ ('a' ≤ c ∧ c ≤ 'f')

/-- A row of digits in lower case, where a zero leads only if it stands alone. -/
structure IsTerse (ds : List Char) : Prop where
  ne_nil : ds ≠ []
  lower : ∀ c ∈ ds, IsLowerDigit c
  zero : ds.head? = some '0' → ds = ['0']

instance (c : Char) : Decidable (IsLowerDigit c) := inferInstanceAs (Decidable (_ ∨ _))

theorem toNat_lt_of_isLowerDigit {c : Char} (h : IsLowerDigit c) : c.toNat < 128 := by
  rcases h with h | h
  · have h9 : c.toNat ≤ '9'.toNat := UInt32.le_iff_toNat_le.1 (isDigit_iff_le.1 h).2
    exact h9.trans_lt (by decide)
  · have hf : c.toNat ≤ 'f'.toNat := UInt32.le_iff_toNat_le.1 h.2
    exact hf.trans_lt (by decide)

/-- A digit in lower case is the one that is written for its value. -/
theorem exists_hexValue? {c : Char} (h : IsLowerDigit c) :
    ∃ d < 16, hexValue? c = some d ∧ d.digitChar = c := by
  have hall : ∀ k : Fin 128, IsLowerDigit (Char.ofNat k) →
      (hexValue? (Char.ofNat k)).any fun d => d < 16 ∧ d.digitChar = Char.ofNat k := by decide
  have hc := hall ⟨c.toNat, toNat_lt_of_isLowerDigit h⟩
  rw [Char.ofNat_toNat] at hc
  obtain ⟨d, hd, hp⟩ := (Option.any_eq_true _ _).1 (hc h)
  obtain ⟨hlt, hchar⟩ := of_decide_eq_true hp
  exact ⟨d, hlt, hd, hchar⟩

theorem digitChar_of_isLowerDigit {c : Char} {d : ℕ} (h : IsLowerDigit c)
    (hd : hexValue? c = some d) : d.digitChar = c := by
  obtain ⟨e, -, he, hc⟩ := exists_hexValue? h
  obtain rfl := Option.some.inj (hd.symm.trans he)
  exact hc

theorem isSome_digitValue?_of_isLowerDigit {c : Char} (h : IsLowerDigit c) :
    (digitValue? 16 c).isSome := by
  obtain ⟨d, hlt, hd, -⟩ := exists_hexValue? h
  rw [digitValue?, hd, Option.filter_some_pos (by simpa using hlt)]; rfl

theorem isLowerDigit_digitChar {d : ℕ} (h : d < 16) : IsLowerDigit d.digitChar := by
  have hall : ∀ e : Fin 16, IsLowerDigit (Nat.digitChar e) := by decide
  exact hall ⟨d, h⟩

theorem exists_numberFrom? {base : ℕ} {ds : List Char}
    (h : ∀ c ∈ ds, (digitValue? base c).isSome) (m : ℕ) : ∃ n, numberFrom? base m ds = some n := by
  induction ds generalizing m with
  | nil => exact ⟨m, rfl⟩
  | cons c ds ih =>
    obtain ⟨d, hd⟩ := Option.isSome_iff_exists.1 (h c (by simp))
    obtain ⟨n, hn⟩ := ih (fun e he => h e (by simp [he])) (base * m + d)
    exact ⟨n, by rw [numberFrom?, hd, Option.bind_some, hn]⟩

section
variable {base : ℕ} (h1 : 1 < base)
include h1

/-- Digits that follow those of a positive number are the last of its digits. -/
theorem toDigits_append_of_numberFrom? {m n : ℕ} {ds : List Char} (hm : 0 < m)
    (hl : ∀ c ∈ ds, IsLowerDigit c) (h : numberFrom? base m ds = some n) :
    Nat.toDigits base m ++ ds = Nat.toDigits base n := by
  induction ds generalizing m with
  | nil => obtain rfl := Option.some.inj h; simp
  | cons c ds ih =>
    obtain ⟨d, hd, hn⟩ := Option.bind_eq_some_iff.1 h
    have hlt : d < base := digitValue?_lt hd
    have hc : d.digitChar = c :=
      digitChar_of_isLowerDigit (hl c (by simp)) (Option.filter_eq_some_iff.1 hd).1
    have hmd : Nat.toDigits base m ++ [c] = Nat.toDigits base (base * m + d) := by
      rw [← Nat.toDigits_append_toDigits h1 hm hlt, Nat.toDigits_of_lt_base hlt, hc]
    calc Nat.toDigits base m ++ c :: ds = (Nat.toDigits base m ++ [c]) ++ ds := by simp
      _ = Nat.toDigits base (base * m + d) ++ ds := by rw [hmd]
      _ = Nat.toDigits base n := ih (by positivity) (fun e he => hl e (by simp [he])) hn

theorem eq_toDigits_of_isTerse {n : ℕ} {ds : List Char} (ht : IsTerse ds)
    (h : numberFrom? base 0 ds = some n) : ds = Nat.toDigits base n := by
  obtain _ | ⟨c, ds⟩ := ds
  · exact absurd rfl ht.ne_nil
  obtain ⟨d, hd, hn⟩ := Option.bind_eq_some_iff.1 h
  have hlt : d < base := digitValue?_lt hd
  have hc : d.digitChar = c :=
    digitChar_of_isLowerDigit (ht.lower c (by simp)) (Option.filter_eq_some_iff.1 hd).1
  rw [Nat.mul_zero, Nat.zero_add] at hn
  by_cases h0 : d = 0
  · subst h0
    obtain ⟨-, rfl⟩ := List.cons.inj (ht.zero (by rw [← hc]; rfl))
    obtain rfl := Option.some.inj hn
    rw [Nat.toDigits_of_lt_base hlt, hc]
  · rw [← toDigits_append_of_numberFrom? h1 (Nat.pos_of_ne_zero h0)
      (fun e he => ht.lower e (by simp [he])) hn, Nat.toDigits_of_lt_base hlt, hc]; rfl

variable (h16 : base ≤ 16)
include h16

theorem isLowerDigit_of_mem_toDigits (n : ℕ) : ∀ c ∈ Nat.toDigits base n, IsLowerDigit c := by
  induction n using Nat.strongRecOn with
  | ind n ih =>
    by_cases hn : n < base
    · rw [Nat.toDigits_of_lt_base hn]
      simpa using isLowerDigit_digitChar (hn.trans_le h16)
    · rw [Nat.toDigits_of_base_le h1 (by omega)]
      intro c hc
      rcases List.mem_append.1 hc with hc | hc
      · exact ih _ (Nat.div_lt_self (by omega) h1) c hc
      · obtain rfl := List.mem_singleton.1 hc
        exact isLowerDigit_digitChar ((Nat.mod_lt _ (by omega)).trans_le h16)

theorem head?_toDigits_ne {n : ℕ} (hn : 0 < n) : (Nat.toDigits base n).head? ≠ some '0' := by
  induction n using Nat.strongRecOn with
  | ind n ih =>
    by_cases hlt : n < base
    · rw [Nat.toDigits_of_lt_base hlt]
      intro h
      have hv := digitValue?_digitChar h16 hlt
      rw [Option.some.inj h] at hv
      have h0 : hexValue? '0' = some n := (Option.filter_eq_some_iff.1 hv).1
      exact hn.ne (Option.some.inj h0)
    · rw [Nat.toDigits_of_base_le h1 (by omega), List.head?_append_of_ne_nil _ Nat.toDigits_ne_nil]
      exact ih _ (Nat.div_lt_self hn h1) (Nat.div_pos (by omega) (by omega))

theorem isTerse_toDigits (n : ℕ) : IsTerse (Nat.toDigits base n) where
  ne_nil := Nat.toDigits_ne_nil
  lower := isLowerDigit_of_mem_toDigits h1 h16 n
  zero h := by
    rcases Nat.eq_zero_or_pos n with rfl | hn
    · rw [Nat.toDigits_of_lt_base (by omega)]; rfl
    · exact absurd h (head?_toDigits_ne h1 h16 hn)

end

end Text

/-! ## Addresses -/

namespace Address

/-- The text is an address of the family without a redundant digit: four
    decimal groups of at most 255, or eight groups of at most four hex digits. -/
inductive IsTerse : Family → String → Prop
  | v4 {gs : List (List Char)} (hl : gs.length = 4) (ht : ∀ g ∈ gs, Text.IsTerse g)
      (hd : ∀ g ∈ gs, ∀ c ∈ g, c.isDigit = true)
      (hn : ∀ g ∈ gs, Nat.ofDigitChars 10 g 0 ≤ 255) :
      IsTerse .v4 (String.ofList (['.'].intercalate gs))
  | v6 {gs : List (List Char)} (hl : gs.length = 8) (ht : ∀ g ∈ gs, Text.IsTerse g)
      (hw : ∀ g ∈ gs, g.length ≤ 4) :
      IsTerse .v6 (String.ofList ([':'].intercalate gs))

theorem pairs_flatMap_groupOctets {ns : List ℕ} (h : ∀ n ∈ ns, n < 2 ^ 16) :
    pairs (ns.flatMap groupOctets) = ns := by
  induction ns with
  | nil => rfl
  | cons n ns ih =>
    have hn : n < 2 ^ 16 := h n (by simp)
    have hhi : (UInt8.ofNat (n / 256)).toNat = n / 256 := by rw [UInt8.toNat_ofNat']; omega
    have hlo : (UInt8.ofNat n).toNat = n % 256 := UInt8.toNat_ofNat'
    rw [List.flatMap_cons, groupOctets, List.cons_append, List.cons_append, List.nil_append, pairs,
      hhi, hlo, ih fun m hm => h m (by simp [hm]), Nat.div_add_mod]

/-- What is written for an address has no redundant digit. -/
theorem isTerse_text (a : Address) : IsTerse a.family a.text := by
  rw [text]
  cases h : a.family with
  | v4 =>
    refine .v4 (by rw [List.length_map, a.length_octets, h]; rfl) ?_ ?_ ?_ <;>
      rw [List.forall_mem_map]
    · exact fun o _ => Text.isTerse_toDigits (by omega) (by omega) o.toNat
    · exact fun o _ c hc => Nat.isDigit_of_mem_toDigits (by omega) (by omega) hc
    · intro o _
      rw [Nat.ofDigitChars_ten_toDigits]
      exact Nat.le_of_lt_succ o.toNat_lt
  | v6 =>
    refine .v6 ?_ ?_ ?_
    · rw [List.length_map, groups, length_pairs, a.length_octets, h]; rfl
    · rw [List.forall_mem_map]
      exact fun g _ => Text.isTerse_toDigits (by omega) le_rfl g
    · rw [List.forall_mem_map]
      exact fun g hg =>
        (Nat.length_toDigits_le_iff (by omega) (by omega)).2 (pairs_lt a.octets g hg)

theorem exists_text_of_decimal {gs : List (List Char)} (hl : gs.length = 4)
    (ht : ∀ g ∈ gs, Text.IsTerse g) (hd : ∀ g ∈ gs, ∀ c ∈ g, c.isDigit = true)
    (hn : ∀ g ∈ gs, Nat.ofDigitChars 10 g 0 ≤ 255) :
    ∃ a : Address, a.family = .v4 ∧ a.text = String.ofList (['.'].intercalate gs) := by
  set octet : List Char → UInt8 := fun g => UInt8.ofNat (Nat.ofDigitChars 10 g 0) with ho
  have hoctet : ∀ g ∈ gs, Nat.toDigits 10 (octet g).toNat = g := by
    intro g hg
    have hlt : Nat.ofDigitChars 10 g 0 < 2 ^ 8 := Nat.lt_succ_of_le (hn g hg)
    have hv : Text.numberFrom? 10 0 g = some (octet g).toNat := by
      rw [Text.numberFrom?_ten_eq_some_iff, ho, UInt8.toNat_ofNat', Nat.mod_eq_of_lt hlt]
      exact ⟨hd g hg, rfl⟩
    exact (Text.eq_toDigits_of_isTerse (by omega) (ht g hg) hv).symm
  refine ⟨⟨.v4, gs.map octet, by rw [List.length_map, hl]; rfl⟩, rfl, ?_⟩
  simp only [text, List.map_map, Function.comp_def]
  rw [List.map_congr_left hoctet, List.map_id']

theorem exists_text_of_hex {gs : List (List Char)} (hl : gs.length = 8)
    (ht : ∀ g ∈ gs, Text.IsTerse g) (hw : ∀ g ∈ gs, g.length ≤ 4) :
    ∃ a : Address, a.family = .v6 ∧ a.text = String.ofList ([':'].intercalate gs) := by
  set value : List Char → ℕ := fun g => (Text.numberFrom? 16 0 g).getD 0 with hv
  have hvalue : ∀ g ∈ gs, Nat.toDigits 16 (value g) = g := by
    intro g hg
    obtain ⟨n, hn⟩ := Text.exists_numberFrom? (fun c hc =>
      Text.isSome_digitValue?_of_isLowerDigit ((ht g hg).lower c hc)) 0
    have hgn : value g = n := by simp only [hv, hn, Option.getD_some]
    rw [hgn, ← Text.eq_toDigits_of_isTerse (by omega) (ht g hg) hn]
  have hlt : ∀ n ∈ gs.map value, n < 2 ^ 16 := by
    rw [List.forall_mem_map]
    intro g hg
    refine (Nat.length_toDigits_le_iff (b := 16) (k := 4) (by omega) (by omega)).1 ?_
    rw [hvalue g hg]
    exact hw g hg
  have hlen : ((gs.map value).flatMap groupOctets).length = Family.v6.size := by
    rw [length_flatMap_groupOctets, List.length_map, hl]; rfl
  refine ⟨⟨.v6, (gs.map value).flatMap groupOctets, hlen⟩, rfl, ?_⟩
  simp only [text, groups]
  rw [pairs_flatMap_groupOctets hlt, List.map_map, Function.comp_def, List.map_congr_left hvalue,
    List.map_id']

/-- **Texts without a redundant digit are those that are written for
    addresses.** -/
theorem isTerse_iff_text {f : Family} {s : String} :
    IsTerse f s ↔ ∃ a : Address, a.family = f ∧ a.text = s := by
  constructor
  · rintro (⟨hl, ht, hd, hn⟩ | ⟨hl, ht, hw⟩)
    · exact exists_text_of_decimal hl ht hd hn
    · exact exists_text_of_hex hl ht hw
  · rintro ⟨a, rfl, rfl⟩
    exact isTerse_text a

/-- **Writing and reading addresses.**  What is written for an address is read
    as that address, octet by octet.  For any text that is read as an address,
    what is written for it is read as the same address, and it is the text
    itself iff the text has no redundant digit.  So no two addresses are
    written alike, and the texts that are written are those without a redundant
    digit. -/
theorem text_terse :
    (∀ a : Address, parse? a.text = some a) ∧
    (∀ (s : String) (b : Address), parse? s = some b →
      parse? b.text = some b ∧ (s = b.text ↔ IsTerse b.family s)) ∧
    Function.Injective text ∧
    Set.range text = {s | ∃ f, IsTerse f s} := by
  refine ⟨parse?_text, fun s b hs => ⟨parse?_text b, ?_⟩, fun a b hab => ?_, ?_⟩
  · constructor
    · rintro rfl
      exact isTerse_text b
    · intro ht
      obtain ⟨a, -, rfl⟩ := isTerse_iff_text.1 ht
      rw [parse?_text] at hs
      rw [Option.some.inj hs]
  · have h := parse?_text a
    rw [hab, parse?_text b] at h
    exact (Option.some.inj h).symm
  · ext s
    constructor
    · rintro ⟨a, rfl⟩
      exact ⟨a.family, isTerse_text a⟩
    · rintro ⟨f, h⟩
      obtain ⟨a, -, rfl⟩ := isTerse_iff_text.1 h
      exact ⟨a, rfl⟩

end Address

end AddressGate
