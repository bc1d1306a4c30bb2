/-
  Entries and remote texts that cannot be read fail closed.

  * `Rules.DecidesAs r r'`: the rules decide alike about every remote text and
    every peer; `decidesAs_of_matches` says that this is so if their lists match
    the same texts and both or none have a whitelist;
  * `Rules.withoutMalformed` drops the malformed subnets of a list, which match
    nothing (`exists_matches_withoutMalformed`);
  * `Pattern.matches_iff_of_unreadable`: a text that is no address matches itself
    alone;
  * `malformed_fail_closed`: what malformed entries and unreadable texts change
    in a decision.
-/
import AddressGate.Proofs.Prediction

namespace AddressGate

theorem Outcome.eq_of_denied_iff {o o' : Outcome} (h : o = .denied ↔ o' = .denied) : o = o' := by
  cases o <;> cases o' <;> simp_all

namespace Rules

variable {r r' : Rules} {remote : String}

/-! ## Rules that decide alike -/

/-- The rules decide alike about every remote text and every peer, known or
    not. -/
structure DecidesAs (r r' : Rules) : Prop where
  evaluate : ∀ remote, (r.evaluate remote).result = (r'.evaluate remote).result
  evaluateAddress : ∀ remote, (r.evaluateAddress remote).result = (r'.evaluateAddress remote).result

/-- An unknown peer is denied iff there is a whitelist. -/
theorem evaluateAddress_none_denied_iff :
    (r.evaluateAddress none).result = .denied ↔ r.whitelist ≠ [] := by
  rw [evaluateAddress, ne_eq, ← List.isEmpty_iff]
  cases r.whitelist.isEmpty <;> simp [deny]

/-- **Decisions depend on what the lists match, and on whether there is a
    whitelist.** -/
theorem decidesAs_of_matches
    (hm : ∀ remote list, (∃ e ∈ r.entries list, Pattern.Matches remote e) ↔
      ∃ e ∈ r'.entries list, Pattern.Matches remote e)
    (hw : r.whitelist = [] ↔ r'.whitelist = []) : DecidesAs r r' := by
  have hevaluate : ∀ remote, (r.evaluate remote).result = (r'.evaluate remote).result := by
    intro remote
    have hblack := hm remote .blacklist
    have hwhite := not_congr (hm remote .whitelist)
    simp only [entries, not_exists, not_and] at hblack hwhite
    refine Outcome.eq_of_denied_iff ?_
    rw [evaluate_denied_iff, evaluate_denied_iff, hblack, hwhite, ne_eq, hw]
  refine ⟨hevaluate, fun remote => ?_⟩
  cases remote with
  | some ip => exact hevaluate ip.canonical.text
  | none =>
    refine Outcome.eq_of_denied_iff ?_
    rw [evaluateAddress_none_denied_iff, evaluateAddress_none_denied_iff, ne_eq, hw]

/-! ## Malformed entries -/

/-- The rules without the malformed subnets of a list. -/
def withoutMalformed (r : Rules) (list : ListName) : Rules :=
  r.withEntries list ((r.entries list).filter fun e => ¬ Pattern.IsMalformedSubnet e)

theorem exists_matches_withoutMalformed (r : Rules) (dropped list : ListName) (remote : String) :
    (∃ e ∈ (r.withoutMalformed dropped).entries list, Pattern.Matches remote e) ↔
      ∃ e ∈ r.entries list, Pattern.Matches remote e := by
  by_cases hl : dropped = list
  · subst hl
    rw [withoutMalformed, entries_withEntries_self]
    constructor
    · rintro ⟨e, he, hm⟩
      exact ⟨e, List.mem_of_mem_filter he, hm⟩
    · rintro ⟨e, he, hm⟩
      -- an entry that matches is not malformed, so it stays
      refine ⟨e, List.mem_filter.2 ⟨he, decide_eq_true fun hbad => ?_⟩, hm⟩
      exact Pattern.never_matches_iff.2 hbad remote hm
  · rw [withoutMalformed, entries_withEntries_of_ne r hl]

/-- **Without its malformed subnets, a list decides as before**, as long as it
    leaves a whitelist where there was one. -/
theorem withoutMalformed_decidesAs {list : ListName}
    (hw : (r.withoutMalformed list).whitelist = [] ↔ r.whitelist = []) :
    DecidesAs (r.withoutMalformed list) r :=
  decidesAs_of_matches (fun remote m => r.exists_matches_withoutMalformed list m remote) hw

end Rules

/-! ## Unreadable remote texts -/

namespace Pattern

variable {remote : String}

/-- **A text that is no address matches itself alone.** -/
theorem matches_iff_of_unreadable (h : Address.parse? remote = none) {e : String} :
    Matches remote e ↔ '/' ∉ e.toList ∧ e = remote := by
  constructor
  · rintro (hm | ⟨-, hh⟩)
    · exact hm
    · obtain ⟨_, _, _, b, _, _, hb, _⟩ := Subnet.holds_result_iff.1 hh
      rw [h] at hb
      cases hb
  · exact Or.inl

theorem anyAccepts_iff_of_unreadable (h : Address.parse? remote = none) {patterns : List String} :
    (anyAccepts remote patterns).result = true ↔ '/' ∉ remote.toList ∧ remote ∈ patterns := by
  simp only [anyAccepts_result_iff, matches_iff_of_unreadable h]
  constructor
  · rintro ⟨e, he, hs, rfl⟩
    exact ⟨hs, he⟩
  · rintro ⟨hs, he⟩
    exact ⟨remote, he, hs, rfl⟩

theorem not_matches_of_slash (h : '/' ∈ remote.toList) (e : String) : ¬ Matches remote e := by
  have hnone : Address.parse? remote = none :=
    Option.eq_none_iff_forall_ne_some.2 fun b hb => Address.slash_not_mem_of_parse? hb h
  rw [matches_iff_of_unreadable hnone]
  rintro ⟨hs, rfl⟩
  exact hs h

end Pattern

/-! ## Decisions -/

namespace Rules

variable {r : Rules}

/-- **A whitelist of malformed subnets denies everything.** -/
theorem denied_of_malformed_whitelist (hne : r.whitelist ≠ [])
    (h : ∀ e ∈ r.whitelist, Pattern.IsMalformedSubnet e) :
    (∀ remote, (r.evaluate remote).result = .denied) ∧
      ∀ remote, (r.evaluateAddress remote).result = .denied := by
  have hdenied : ∀ remote, (r.evaluate remote).result = .denied := by
    intro remote
    refine evaluate_denied_iff.2 (Or.inr ⟨hne, fun e he => ?_⟩)
    exact Pattern.never_matches_iff.2 (h e he) remote
  refine ⟨hdenied, fun remote => ?_⟩
  cases remote with
  | some ip => exact hdenied ip.canonical.text
  | none => exact evaluateAddress_none_denied_iff.2 hne

/-- **What cannot be read fails closed.**  The malformed subnets of the blacklist
    change no decision, and those of the whitelist change none as long as another
    entry of it remains; a whitelist of malformed subnets alone denies every
    remote text and every peer, known or not.  A list matches a remote text that
    is no address iff the text has no slash and is one of the entries; so a
    remote text with a slash is denied iff there is a whitelist. -/
theorem malformed_fail_closed (r : Rules) :
    DecidesAs (r.withoutMalformed .blacklist) r ∧
    ((r.withoutMalformed .whitelist).whitelist ≠ [] →
      DecidesAs (r.withoutMalformed .whitelist) r) ∧
    (r.whitelist ≠ [] →
      (∀ e ∈ r.whitelist, '/' ∈ e.toList ∧ Pattern.isWellFormed e = false) →
      (∀ remote, (r.evaluate remote).result = .denied) ∧
        ∀ remote, (r.evaluateAddress remote).result = .denied) ∧
    (∀ remote, Address.parse? remote = none → ∀ patterns,
      (Pattern.anyAccepts remote patterns).result = true ↔
        '/' ∉ remote.toList ∧ remote ∈ patterns) ∧
    ∀ remote, '/' ∈ remote.toList →
      ((r.evaluate remote).result = .denied ↔ r.whitelist ≠ []) := by
  refine ⟨withoutMalformed_decidesAs Iff.rfl, fun hne => withoutMalformed_decidesAs ?_,
    denied_of_malformed_whitelist, fun remote h patterns => Pattern.anyAccepts_iff_of_unreadable h,
    fun remote h => ?_⟩
  · refine iff_of_false hne fun hnil => hne ?_
    rw [withoutMalformed, entries, hnil]
    rfl
  · rw [evaluate_denied_iff]
    simp [Pattern.not_matches_of_slash h]

end Rules

end AddressGate
