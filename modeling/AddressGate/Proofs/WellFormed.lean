/-
  The look at a list before it is used agrees with its use.

  * `isWellFormed_iff_readable`: the check of a specifier accepts those with a
    slash, a length and a readable address (`Readable`);
  * `events_eq_nil_iff_readable` and `exists_holds_iff_readable`: these are the
    specifiers that report nothing of a readable candidate, and those that hold
    some candidate at all;
  * `wellFormed_agrees`: the check, matching, and the warnings of loading.
-/
import AddressGate.Proofs.Pattern
import AddressGate.Proofs.Spelling
import AddressGate.Rules.Loading

namespace AddressGate

namespace Subnet

/-- A specifier with an address that can be read. -/
def Readable (specifier : String) : Prop :=
  ∃ address n a, Spelled specifier address n ∧ Address.parse? address = some a

/-- Whether a readable candidate is reported only depends on the specifier. -/
theorem events_eq_nil_iff_readable {specifier candidate : String} {b : Address}
    (hc : Address.parse? candidate = some b) :
    (holds specifier candidate).events = [] ↔ Readable specifier := by
  constructor
  · intro h
    generalize hr : holds specifier candidate = r at h
    cases holds_eq_iff.1 hr with
    | specifier | address => cases h
    | candidate _ _ hn => rw [hc] at hn; cases hn
    | read hs ha => exact ⟨_, _, _, hs, ha⟩
  · rintro ⟨address, n, a, hs, ha⟩
    rw [holds_eq_iff.2 (.read hs ha hc)]

/-- A readable specifier holds its own address. -/
theorem exists_holds_iff_readable {specifier : String} :
    (∃ candidate, (holds specifier candidate).result = true) ↔ Readable specifier := by
  constructor
  · rintro ⟨candidate, h⟩
    obtain ⟨address, n, a, -, hs, ha, -⟩ := holds_result_iff.1 h
    exact ⟨address, n, a, hs, ha⟩
  · rintro ⟨address, n, a, hs, ha⟩
    exact ⟨address, holds_result_iff.2 ⟨address, n, a, a, hs, ha, ha, a.sharesPrefix_self n⟩⟩

end Subnet

theorem Address.exists_parse? : ∃ candidate, ∃ a : Address, parse? candidate = some a :=
  have a : Address := ⟨.v4, [0, 0, 0, 0], rfl⟩
  ⟨a.text, a, a.parse?_text⟩

namespace Pattern

variable {pattern : String}

/-- **The check of a specifier reads the same parts as matching.** -/
theorem isWellFormed_iff_readable (h : '/' ∈ pattern.toList) :
    isWellFormed pattern = true ↔ Subnet.Readable pattern := by
  rw [isWellFormed, if_pos (isSubnet_iff.2 h)]
  constructor
  · intro hw
    cases hs : Subnet.sides? pattern with
    | none => rw [hs] at hw; cases hw
    | some p =>
      obtain ⟨address, ds⟩ := p
      rw [hs] at hw
      obtain ⟨hn, ha⟩ := Bool.and_eq_true_iff.1 hw
      obtain ⟨n, hn⟩ := Option.isSome_iff_exists.1 hn
      obtain ⟨a, ha⟩ := Option.isSome_iff_exists.1 ha
      have hsplit := Subnet.split?_eq_some_iff_sides.2 ⟨ds, hs, hn⟩
      exact ⟨address, n, a, Subnet.split?_eq_some_iff.1 hsplit, ha⟩
  · rintro ⟨address, n, a, hs, ha⟩
    obtain ⟨ds, hsides, hn⟩ :=
      Subnet.split?_eq_some_iff_sides.1 (Subnet.split?_eq_some_iff.2 hs)
    rw [hsides]
    exact Bool.and_eq_true_iff.2 ⟨by rw [hn]; rfl, by rw [ha]; rfl⟩

theorem isWellFormed_of_no_slash (h : '/' ∉ pattern.toList) :
    isWellFormed pattern = (Address.parse? pattern).isSome := by
  rw [isWellFormed, if_neg (mt isSubnet_iff.1 h)]

theorem anyAccepts_singleton_iff {candidate : String} :
    (anyAccepts candidate [pattern]).result = true ↔ Matches candidate pattern := by
  simp [anyAccepts_result_iff]

theorem matches_iff_of_slash {candidate : String} (h : '/' ∈ pattern.toList) :
    Matches candidate pattern ↔ (Subnet.holds pattern candidate).result = true := by
  simp [Matches, h]

theorem matches_iff_of_no_slash {candidate : String} (h : '/' ∉ pattern.toList) :
    Matches candidate pattern ↔ candidate = pattern := by
  simp only [Matches, h, not_false_eq_true, true_and, false_and, or_false]
  exact eq_comm

/-- A pattern that no candidate matches is a specifier that is not well-formed. -/
theorem never_matches_iff :
    (∀ candidate, ¬ Matches candidate pattern) ↔
      '/' ∈ pattern.toList ∧ isWellFormed pattern = false := by
  by_cases h : '/' ∈ pattern.toList
  · have hw : isWellFormed pattern = false ↔ ¬ Subnet.Readable pattern := by
      rw [← isWellFormed_iff_readable h, Bool.not_eq_true]
    rw [hw, ← Subnet.exists_holds_iff_readable]
    simp [matches_iff_of_slash h, h]
  · refine ⟨fun hn => absurd ((matches_iff_of_no_slash h).2 rfl) (hn pattern), fun hn => ?_⟩
    exact absurd hn.1 h

end Pattern

/-! ## Warnings -/

theorem Pattern.entryWarning?_eq_some_iff {list : ListName} {entry : String} {ev : Event} :
    entryWarning? list entry = some ev ↔ isWellFormed entry = false ∧
      ev = if '/' ∈ entry.toList then .malformedEntry list entry
        else .verbatimEntry list entry := by
  unfold entryWarning?
  cases hw : isWellFormed entry with
  | true => simp
  | false =>
    by_cases hs : '/' ∈ entry.toList
    · rw [if_neg Bool.false_ne_true, if_pos (isSubnet_iff.2 hs), if_pos hs]
      exact ⟨fun h => ⟨rfl, (Option.some.inj h).symm⟩, fun h => h.2 ▸ rfl⟩
    · rw [if_neg Bool.false_ne_true, if_neg (mt isSubnet_iff.1 hs), if_neg hs]
      exact ⟨fun h => ⟨rfl, (Option.some.inj h).symm⟩, fun h => h.2 ▸ rfl⟩

namespace Rules

theorem mem_warnings_iff {r : Rules} {ev : Event} :
    ev ∈ r.withWarnings.events ↔
      ∃ list, ∃ entry ∈ r.entries list, entryWarning? list entry = some ev := by
  simp only [withWarnings, warnings, listWarnings, List.mem_append, List.mem_filterMap]
  constructor
  · rintro (⟨entry, he, h⟩ | ⟨entry, he, h⟩)
    · exact ⟨.blacklist, entry, he, h⟩
    · exact ⟨.whitelist, entry, he, h⟩
  · rintro ⟨_ | _, entry, he, h⟩
    · exact Or.inl ⟨entry, he, h⟩
    · exact Or.inr ⟨entry, he, h⟩

theorem warnings_eq_nil_iff {r : Rules} :
    r.warnings = [] ↔ ∀ list, ∀ e ∈ r.entries list, Pattern.isWellFormed e = true := by
  have hmem := fun ev => @mem_warnings_iff r ev
  simp only [withWarnings, Pattern.entryWarning?_eq_some_iff] at hmem
  simp only [List.eq_nil_iff_forall_not_mem, hmem]
  constructor
  · intro h list e he
    by_contra hw
    exact h _ ⟨list, e, he, Bool.not_eq_true _ ▸ hw, rfl⟩
  · rintro h ev ⟨list, e, he, hw, -⟩
    rw [h list e he] at hw
    cases hw

/-- The warning that an entry never matches, as a log shows it, names the
    specifiers that are not well-formed. -/
theorem exists_never_match_warning_iff {r : Rules} {list : ListName} {entry : String} :
    (∃ ev ∈ r.withWarnings.events,
        ev.record.message = "Entry is a malformed subnet and will never match" ∧
        ev.record.fields = [("list", .text list.text), ("entry", .text entry)]) ↔
      entry ∈ r.entries list ∧ '/' ∈ entry.toList ∧ Pattern.isWellFormed entry = false := by
  constructor
  · rintro ⟨ev, hev, hm, hf⟩
    obtain ⟨l, e, he, hw⟩ := mem_warnings_iff.1 hev
    obtain ⟨hwf, rfl⟩ := Pattern.entryWarning?_eq_some_iff.1 hw
    split_ifs at hm hf with hs
    · simp only [Event.record, List.cons.injEq, Prod.mk.injEq, Value.text.injEq, true_and,
        and_true] at hf
      obtain ⟨hl, rfl⟩ := hf
      obtain rfl : l = list := by cases l <;> cases list <;> simp_all [ListName.text]
      exact ⟨he, hs, hwf⟩
    · simp [Event.record] at hm
  · rintro ⟨he, hs, hwf⟩
    refine ⟨_, mem_warnings_iff.2 ⟨list, entry, he,
      Pattern.entryWarning?_eq_some_iff.2 ⟨hwf, rfl⟩⟩, ?_⟩
    rw [if_pos hs]
    exact ⟨rfl, rfl⟩

end Rules

/-- **The look at a list before it is used agrees with its use.**  For a pattern
    with a slash these are equivalent: it is well-formed; some candidate is
    held; no readable candidate is reported; some readable candidate is not
    reported.  A pattern without a slash matches itself alone, and is
    well-formed iff it can be read.  So loading warns that an entry will never
    match iff no candidate matches it. -/
theorem Pattern.wellFormed_agrees (pattern : String) :
    ('/' ∈ pattern.toList → List.TFAE [
      isWellFormed pattern = true,
      ∃ candidate, (Subnet.holds pattern candidate).result = true,
      ∀ candidate, (Address.parse? candidate).isSome →
        (Subnet.holds pattern candidate).events = [],
      ∃ candidate, (Address.parse? candidate).isSome ∧
        (Subnet.holds pattern candidate).events = []]) ∧
    ('/' ∉ pattern.toList →
      (∀ candidate, (anyAccepts candidate [pattern]).result = true ↔ candidate = pattern) ∧
      (isWellFormed pattern = true ↔ (Address.parse? pattern).isSome)) ∧
    ∀ (r : Rules) (list : ListName),
      (∃ ev ∈ r.withWarnings.events,
        ev.record.message = "Entry is a malformed subnet and will never match" ∧
        ev.record.fields = [("list", .text list.text), ("entry", .text pattern)]) ↔
      pattern ∈ r.entries list ∧
        ∀ candidate, (anyAccepts candidate [pattern]).result = false := by
  refine ⟨fun h => ?_, fun h => ⟨fun candidate => ?_, ?_⟩, fun r list => ?_⟩
  · have hheld := @Subnet.exists_holds_iff_readable pattern
    tfae_have 1 ↔ 2 := (isWellFormed_iff_readable h).trans hheld.symm
    tfae_have 2 → 3 := by
      intro hr candidate hc
      obtain ⟨b, hb⟩ := Option.isSome_iff_exists.1 hc
      exact (Subnet.events_eq_nil_iff_readable hb).2 (hheld.1 hr)
    tfae_have 3 → 4 := by
      intro hall
      obtain ⟨candidate, b, hb⟩ := Address.exists_parse?
      have hc : (Address.parse? candidate).isSome := by rw [hb]; rfl
      exact ⟨candidate, hc, hall candidate hc⟩
    tfae_have 4 → 2 := by
      rintro ⟨candidate, hc, he⟩
      obtain ⟨b, hb⟩ := Option.isSome_iff_exists.1 hc
      exact hheld.2 ((Subnet.events_eq_nil_iff_readable hb).1 he)
    tfae_finish
  · rw [anyAccepts_singleton_iff, matches_iff_of_no_slash h]
  · rw [isWellFormed_of_no_slash h]
  · rw [Rules.exists_never_match_warning_iff, ← never_matches_iff]
    simp only [← anyAccepts_singleton_iff, Bool.not_eq_true]

end AddressGate
