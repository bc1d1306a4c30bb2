/-
  Subnet specifiers and what they hold.

  * `Spelled specifier address n`: the specifier is an address text, a slash,
    and the length `n` in ASCII digits, declaratively; `split?_eq_some_iff`
    says that `split?` finds exactly these parts;
  * `Tested specifier candidate r`: what a test of a candidate gives, by the
    first thing that cannot be read; `holds_tested` is the step lemma of
    matching;
  * `holds_iff_quotients`: a specifier holds a candidate iff both addresses can
    be read, are of one family, and agree in the leading bits.
-/
import AddressGate.Proofs.Number
import AddressGate.Proofs.Pieces
import AddressGate.Proofs.Prefix
import AddressGate.Subnet

namespace AddressGate

namespace Subnet

/-! ## The parts of a specifier -/

/-- The specifier is the address text, a slash, and ASCII digits of value `n`,
    a number of 32 bits. -/
inductive Spelled : String → String → ℕ → Prop
  | mk {address digits : String} {n : ℕ} (hne : address ≠ "") (hslash : '/' ∉ address.toList)
      (hd : Text.IsDecimal digits.toList n) (hn : n < 2 ^ 32) :
      Spelled (address ++ "/" ++ digits) address n

theorem slash_not_mem_of_isDigit {ds : List Char} (h : ∀ c ∈ ds, c.isDigit = true) : '/' ∉ ds :=
  fun hs => absurd (h _ hs) (by decide)

theorem sides?_eq_some_iff {specifier address : String} {ds : List Char} :
    sides? specifier = some (address, ds) ↔
      specifier.toList = address.toList ++ '/' :: ds ∧ address ≠ "" ∧ '/' ∉ address.toList ∧
        ds ≠ [] ∧ '/' ∉ ds ∧ ∀ c ∈ ds, Text.isDecimalDigit c = true := by
  constructor
  · intro h
    unfold sides? at h
    split at h
    · next as es hp =>
      obtain ⟨has, hes, hcs⟩ := Text.splitOn_eq_pair_iff.1 hp
      split_ifs at h with hc
      simp only [Option.some.injEq, Prod.mk.injEq] at h
      obtain ⟨rfl, rfl⟩ := h
      simp only [Bool.and_eq_true, Bool.not_eq_true', List.isEmpty_eq_false_iff,
        List.all_eq_true] at hc
      obtain ⟨⟨ha, he⟩, hall⟩ := hc
      refine ⟨by rw [hcs, String.toList_ofList], ?_, by rwa [String.toList_ofList], he, hes, hall⟩
      intro h0
      exact ha (by simpa using congrArg String.toList h0)
    · exact absurd h (by simp)
  · rintro ⟨hs, hne, ha, hd, hd', hall⟩
    have hne' : address.toList ≠ [] := fun h0 => hne (by rwa [String.toList_eq_nil_iff] at h0)
    unfold sides?
    rw [Text.splitOn_eq_pair_iff.2 ⟨ha, hd', hs⟩]
    simp only [Bool.and_eq_true, Bool.not_eq_true', List.isEmpty_eq_false_iff, List.all_eq_true,
      String.ofList_toList]
    rw [if_pos ⟨⟨hne', hd⟩, hall⟩]

theorem length?_eq_some_iff {ds : List Char} {n : ℕ} :
    length? ds = some n ↔ Text.IsDecimal ds n ∧ n < 2 ^ 32 := by
  rw [length?, Option.filter_eq_some_iff, Text.number?_ten_eq_some_iff, decide_eq_true_eq]; rfl

theorem split?_eq_some_iff_sides {specifier address : String} {n : ℕ} :
    split? specifier = some (address, n) ↔
      ∃ ds, sides? specifier = some (address, ds) ∧ length? ds = some n := by
  simp only [split?, bind, Option.bind_eq_some_iff, pure, Option.some.injEq, Prod.mk.injEq]
  constructor
  · rintro ⟨⟨_, ds⟩, hs, m, hm, rfl, rfl⟩
    exact ⟨ds, hs, hm⟩
  · rintro ⟨ds, hs, hn⟩
    exact ⟨_, hs, n, hn, rfl, rfl⟩

/-- **Cutting a specifier finds exactly its parts.** -/
theorem split?_eq_some_iff {specifier address : String} {n : ℕ} :
    split? specifier = some (address, n) ↔ Spelled specifier address n := by
  rw [split?_eq_some_iff_sides]
  constructor
  · rintro ⟨ds, hs, hl⟩
    obtain ⟨hcs, hne, ha, -, -, -⟩ := sides?_eq_some_iff.1 hs
    obtain ⟨hd, hn⟩ := length?_eq_some_iff.1 hl
    have hspec : specifier = address ++ "/" ++ String.ofList ds := by
      rw [← String.toList_inj, hcs]; simp
    rw [hspec]
    exact .mk hne ha (by rwa [String.toList_ofList]) hn
  · rintro ⟨hne, ha, hd, hn⟩
    refine ⟨_, sides?_eq_some_iff.2 ⟨by simp, hne, ha, hd.1.1, ?_, ?_⟩,
      length?_eq_some_iff.2 ⟨hd, hn⟩⟩
    · exact slash_not_mem_of_isDigit hd.1.2
    · exact fun c hc => Text.isDecimalDigit_of_isDigit (hd.1.2 c hc)

theorem Spelled.unique {specifier address address' : String} {n n' : ℕ}
    (h : Spelled specifier address n) (h' : Spelled specifier address' n') :
    address = address' ∧ n = n' := by
  have he := (split?_eq_some_iff.2 h).symm.trans (split?_eq_some_iff.2 h')
  simpa using he

theorem split?_eq_none_iff {specifier : String} :
    split? specifier = none ↔ ∀ address n, ¬ Spelled specifier address n := by
  rw [Option.eq_none_iff_forall_ne_some]
  constructor
  · intro h address n hs
    exact h _ (split?_eq_some_iff.2 hs)
  · rintro h ⟨address, n⟩ hs
    exact h _ _ (split?_eq_some_iff.1 hs)

/-- The first slash ends the address text. -/
theorem spelled_append_iff {address digits address' : String} {n : ℕ}
    (ha : '/' ∉ address.toList) :
    Spelled (address ++ "/" ++ digits) address' n ↔
      address' = address ∧ address ≠ "" ∧ Text.IsDecimal digits.toList n ∧ n < 2 ^ 32 := by
  constructor
  · intro h
    generalize hs : address ++ "/" ++ digits = specifier at h
    obtain @⟨_, digits', _, hne, hslash, hd, hn⟩ := h
    have hs' : address'.toList ++ '/' :: digits'.toList =
        address.toList ++ '/' :: digits.toList := by
      simpa using (congrArg String.toList hs).symm
    obtain ⟨h1, -, h2⟩ := (List.append_cons_inj_of_notMem hslash
      (slash_not_mem_of_isDigit hd.1.2)).1 hs'
    obtain rfl := String.toList_inj.1 h1
    exact ⟨rfl, hne, h2 ▸ hd, hn⟩
  · rintro ⟨rfl, hne, hd, hn⟩
    exact .mk hne ha hd hn

theorem Spelled.slash_mem {specifier address : String} {n : ℕ} (h : Spelled specifier address n) :
    '/' ∈ specifier.toList := by
  cases h; simp

theorem Spelled.length_lt {specifier address : String} {n : ℕ} (h : Spelled specifier address n) :
    n < 2 ^ 32 := by
  obtain ⟨-, -, -, hn⟩ := h
  exact hn

/-! ## One test -/

/-- What a test of a candidate gives: the first thing that cannot be read is
    reported and holds nothing, else the leading bits decide. -/
inductive Tested (specifier candidate : String) : Reported Diagnostic Bool → Prop
  | specifier (hs : ∀ address n, ¬ Spelled specifier address n) :
      Tested specifier candidate ⟨false, [.malformedPattern specifier]⟩
  | address {address : String} {n : ℕ} (hs : Spelled specifier address n)
      (ha : Address.parse? address = none) :
      Tested specifier candidate ⟨false, [.malformedAddress address]⟩
  | candidate {address : String} {n : ℕ} {a : Address} (hs : Spelled specifier address n)
      (ha : Address.parse? address = some a) (hc : Address.parse? candidate = none) :
      Tested specifier candidate ⟨false, [.malformedAddress candidate]⟩
  | read {address : String} {n : ℕ} {a b : Address} (hs : Spelled specifier address n)
      (ha : Address.parse? address = some a) (hc : Address.parse? candidate = some b) :
      Tested specifier candidate ⟨a.sharesPrefix b n, []⟩

theorem holds_tested (specifier candidate : String) :
    Tested specifier candidate (holds specifier candidate) := by
  unfold holds test parse
  cases hs : split? specifier with
  | none => exact .specifier (split?_eq_none_iff.1 hs)
  | some p =>
    obtain ⟨address, n⟩ := p
    have hs' := split?_eq_some_iff.1 hs
    cases ha : Address.parse? address with
    | none => simp only [readAddress, ha]; exact .address hs' ha
    | some a =>
      cases hc : Address.parse? candidate with
      | none => simp only [readAddress, ha, hc]; exact .candidate hs' ha hc
      | some b => simp only [readAddress, ha, hc]; exact .read hs' ha hc

/-- **A test gives what the relation says, and nothing else.** -/
theorem holds_eq_iff {specifier candidate : String} {r : Reported Diagnostic Bool} :
    holds specifier candidate = r ↔ Tested specifier candidate r := by
  constructor
  · rintro rfl; exact holds_tested specifier candidate
  · intro h
    unfold holds test parse
    cases h with
    | specifier hs => rw [split?_eq_none_iff.2 hs]; rfl
    | address hs ha => simp only [split?_eq_some_iff.2 hs, readAddress, ha]; rfl
    | candidate hs ha hc => simp only [split?_eq_some_iff.2 hs, readAddress, ha, hc]; rfl
    | read hs ha hc => simp only [split?_eq_some_iff.2 hs, readAddress, ha, hc]; rfl

theorem holds_result_iff {specifier candidate : String} :
    (holds specifier candidate).result = true ↔
      ∃ address n a b, Spelled specifier address n ∧ Address.parse? address = some a ∧
        Address.parse? candidate = some b ∧ a.sharesPrefix b n = true := by
  constructor
  · intro h
    generalize hr : holds specifier candidate = r at h
    cases holds_eq_iff.1 hr with
    | specifier | address | candidate => exact absurd h (by simp)
    | read hs ha hc => exact ⟨_, _, _, _, hs, ha, hc, h⟩
  · rintro ⟨address, n, a, b, hs, ha, hc, h⟩
    rw [holds_eq_iff.2 (.read hs ha hc)]; exact h

theorem events_of_holds {specifier candidate : String}
    (h : (holds specifier candidate).result = true) : (holds specifier candidate).events = [] := by
  generalize hr : holds specifier candidate = r at h ⊢
  cases holds_eq_iff.1 hr with
  | specifier | address | candidate => exact absurd h (by simp)
  | read => rfl

/-- **Membership in a subnet, from text.**  A specifier holds a candidate iff it
    is an address text, a slash, and ASCII digits of a 32 bit value, both
    addresses can be read and are of one family, and their numbers have the
    same quotient by the size of the subnet.  So nothing is held if a side is
    empty, the length has another character than ASCII digits (a second slash,
    a digit of another script), or its value is too big. -/
theorem holds_iff_quotients (specifier candidate : String) :
    ((holds specifier candidate).result = true ↔
      ∃ (address digits : String) (n : ℕ) (a b : Address),
        specifier = address ++ "/" ++ digits ∧ address ≠ "" ∧ '/' ∉ address.toList ∧
        (digits ≠ "" ∧ (∀ c ∈ digits.toList, c.isDigit = true) ∧
          Nat.ofDigitChars 10 digits.toList 0 = n) ∧ n ≤ 2 ^ 32 - 1 ∧
        Address.parse? address = some a ∧ Address.parse? candidate = some b ∧
        a.family = b.family ∧
        a.toNat / 2 ^ (a.bits - min n a.bits) = b.toNat / 2 ^ (a.bits - min n a.bits)) ∧
    ∀ address digits : String, '/' ∉ address.toList → specifier = address ++ "/" ++ digits →
      (address = "" ∨ digits = "" ∨ (∃ c ∈ digits.toList, c.isDigit = false) ∨
        2 ^ 32 ≤ Nat.ofDigitChars 10 digits.toList 0) →
      (holds specifier candidate).result = false := by
  refine ⟨?_, fun address digits hslash hspec hbad => ?_⟩
  · rw [holds_result_iff]
    constructor
    · rintro ⟨address, n, a, b, ⟨hne, hslash, hd, hn⟩, ha, hc, h⟩
      obtain ⟨hf, hq⟩ := Address.sharesPrefix_iff.1 h
      refine ⟨address, _, n, a, b, rfl, hne, hslash, ⟨?_, hd.1.2, hd.2⟩, by omega, ha, hc, hf, ?_⟩
      · rw [ne_eq, ← String.toList_eq_nil_iff]; exact hd.1.1
      · rwa [show a.bits - min n a.bits = a.bits - n by omega]
    · rintro ⟨address, digits, n, a, b, rfl, hne, hslash, ⟨hd, hds, hv⟩, hn, ha, hc, hf, hq⟩
      rw [ne_eq, ← String.toList_eq_nil_iff] at hd
      refine ⟨address, n, a, b, .mk hne hslash ⟨⟨hd, hds⟩, hv⟩ (by omega), ha, hc, ?_⟩
      rw [show a.bits - min n a.bits = a.bits - n by omega] at hq
      exact Address.sharesPrefix_iff.2 ⟨hf, hq⟩
  · rw [Bool.eq_false_iff, ne_eq, holds_result_iff]
    rintro ⟨address', n, a, b, hs, -⟩
    rw [hspec, spelled_append_iff hslash] at hs
    obtain ⟨-, hne, ⟨⟨hd, hds⟩, hn⟩, hlt⟩ := hs
    rcases hbad with h | rfl | ⟨c, hc, h⟩ | h
    · exact hne h
    · exact hd rfl
    · rw [hds c hc] at h; cases h
    · omega

/-- A prefix may end inside an octet. -/
example : (holds "10.0.0.0/12" "10.15.255.255").result = true ∧
    (holds "10.0.0.0/12" "10.16.0.0").result = false := by decide +kernel

end Subnet

end AddressGate
