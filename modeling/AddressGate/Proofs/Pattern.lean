/-
  Matching a list of patterns, and what it reports.

  * `Matches candidate p`: the pattern is the candidate itself, or a specifier
    that holds it;
  * `Diagnosed candidate p d`: what a look at the pattern reports, declaratively;
    at most one diagnostic, by the first thing that cannot be read;
  * `accepts_result_iff` and `events_of_diagnosed` are the step lemmas for one
    pattern, `anyAccepts_append` says how a list continues;
  * `anyAccepts_trace`: the result for a list, and its diagnostics in order up
    to the first match.
-/
import AddressGate.Pattern
import AddressGate.Proofs.Subnet

namespace AddressGate

namespace Pattern

variable {candidate pattern : String}

theorem isSubnet_iff : isSubnet pattern = true ↔ '/' ∈ pattern.toList := by
  simp [isSubnet]

/-- The candidate matches the pattern, letter by letter or as a member of the
    subnet. -/
def Matches (candidate pattern : String) : Prop :=
  ('/' ∉ pattern.toList ∧ pattern = candidate) ∨
    ('/' ∈ pattern.toList ∧ (Subnet.holds pattern candidate).result = true)

instance : Decidable (Matches candidate pattern) := inferInstanceAs (Decidable (_ ∨ _))

/-- What a look at one pattern reports. -/
inductive Diagnosed (candidate pattern : String) : Option Diagnostic → Prop
  | verbatim (h : '/' ∉ pattern.toList) : Diagnosed candidate pattern none
  | specifier (h : '/' ∈ pattern.toList) (hs : ∀ address n, ¬ Subnet.Spelled pattern address n) :
      Diagnosed candidate pattern (some (.malformedPattern pattern))
  | address {address : String} {n : ℕ} (hs : Subnet.Spelled pattern address n)
      (ha : Address.parse? address = none) :
      Diagnosed candidate pattern (some (.malformedAddress address))
  | candidate {address : String} {n : ℕ} {a : Address} (hs : Subnet.Spelled pattern address n)
      (ha : Address.parse? address = some a) (hc : Address.parse? candidate = none) :
      Diagnosed candidate pattern (some (.malformedAddress candidate))
  | read {address : String} {n : ℕ} {a b : Address} (hs : Subnet.Spelled pattern address n)
      (ha : Address.parse? address = some a) (hc : Address.parse? candidate = some b) :
      Diagnosed candidate pattern none

/-! ## One pattern -/

theorem accepts_of_slash (h : '/' ∈ pattern.toList) :
    accepts pattern candidate = Subnet.holds pattern candidate := by
  rw [accepts, if_pos (isSubnet_iff.2 h)]

theorem accepts_of_no_slash (h : '/' ∉ pattern.toList) :
    accepts pattern candidate = pure (pattern == candidate) := by
  rw [accepts, if_neg (mt isSubnet_iff.1 h)]

theorem accepts_result_iff :
    (accepts pattern candidate).result = true ↔ Matches candidate pattern := by
  by_cases h : '/' ∈ pattern.toList
  · rw [accepts_of_slash h]
    simp [Matches, h]
  · rw [accepts_of_no_slash h]
    simp [Matches, h]

theorem events_of_accepts (h : (accepts pattern candidate).result = true) :
    (accepts pattern candidate).events = [] := by
  by_cases hs : '/' ∈ pattern.toList
  · rw [accepts_of_slash hs] at h ⊢
    exact Subnet.events_of_holds h
  · rw [accepts_of_no_slash hs]; rfl

theorem exists_diagnosed (candidate pattern : String) : ∃ d, Diagnosed candidate pattern d := by
  by_cases hs : '/' ∈ pattern.toList
  · obtain ⟨r, hr⟩ : ∃ r, Subnet.Tested pattern candidate r := ⟨_, Subnet.holds_tested _ _⟩
    cases hr with
    | specifier hn => exact ⟨_, .specifier hs hn⟩
    | address h ha => exact ⟨_, .address h ha⟩
    | candidate h ha hc => exact ⟨_, .candidate h ha hc⟩
    | read h ha hc => exact ⟨_, .read h ha hc⟩
  · exact ⟨none, .verbatim hs⟩

theorem events_of_diagnosed {d : Option Diagnostic} (h : Diagnosed candidate pattern d) :
    (accepts pattern candidate).events = d.toList := by
  cases h with
  | verbatim h => rw [accepts_of_no_slash h]; rfl
  | specifier h hs => rw [accepts_of_slash h, Subnet.holds_eq_iff.2 (.specifier hs)]; rfl
  | address hs ha => rw [accepts_of_slash hs.slash_mem, Subnet.holds_eq_iff.2 (.address hs ha)]; rfl
  | candidate hs ha hc =>
    rw [accepts_of_slash hs.slash_mem, Subnet.holds_eq_iff.2 (.candidate hs ha hc)]; rfl
  | read hs ha hc => rw [accepts_of_slash hs.slash_mem, Subnet.holds_eq_iff.2 (.read hs ha hc)]; rfl

theorem Diagnosed.unique {d d' : Option Diagnostic} (h : Diagnosed candidate pattern d)
    (h' : Diagnosed candidate pattern d') : d = d' := by
  have he := (events_of_diagnosed h).symm.trans (events_of_diagnosed h')
  cases d <;> cases d' <;> simp_all

/-- **A pattern that matches has nothing to report.** -/
theorem Diagnosed.eq_none_of_matches {d : Option Diagnostic} (h : Diagnosed candidate pattern d)
    (hm : Matches candidate pattern) : d = none := by
  have he := events_of_accepts (accepts_result_iff.2 hm)
  rw [events_of_diagnosed h] at he
  cases d with
  | none => rfl
  | some => cases he

/-! ## A list of patterns -/

theorem anyAccepts_cons (candidate p : String) (ps : List String) :
    anyAccepts candidate (p :: ps) =
      if (accepts p candidate).result then ⟨true, (accepts p candidate).events⟩
      else ⟨(anyAccepts candidate ps).result,
        (accepts p candidate).events ++ (anyAccepts candidate ps).events⟩ := by
  rw [anyAccepts]
  cases h : (accepts p candidate).result with
  | true => simp [bind, h, pure]
  | false => simp [bind, h]

theorem anyAccepts_cons_of_matches {p : String} (h : Matches candidate p) (ps : List String) :
    anyAccepts candidate (p :: ps) = ⟨true, []⟩ := by
  have hr := accepts_result_iff.2 h
  rw [anyAccepts_cons, if_pos hr, events_of_accepts hr]

theorem anyAccepts_cons_of_not_matches {p : String} (h : ¬ Matches candidate p)
    (ps : List String) :
    anyAccepts candidate (p :: ps) = ⟨(anyAccepts candidate ps).result,
      (accepts p candidate).events ++ (anyAccepts candidate ps).events⟩ := by
  rw [anyAccepts_cons, if_neg (mt accepts_result_iff.1 h)]

theorem anyAccepts_result_iff {candidate : String} {ps : List String} :
    (anyAccepts candidate ps).result = true ↔ ∃ p ∈ ps, Matches candidate p := by
  induction ps with
  | nil => simp [anyAccepts]
  | cons p ps ih =>
    by_cases h : Matches candidate p
    · simp [anyAccepts_cons_of_matches h, h]
    · simp [anyAccepts_cons_of_not_matches h, h, ih]

/-- The diagnostics of a list are those of the patterns before the first match,
    in order. -/
theorem anyAccepts_events (candidate : String) (ps : List String) :
    ∃ ds, List.Forall₂ (Diagnosed candidate)
        (ps.takeWhile fun p => !decide (Matches candidate p)) ds ∧
      (anyAccepts candidate ps).events = ds.reduceOption := by
  induction ps with
  | nil => exact ⟨[], .nil, rfl⟩
  | cons p ps ih =>
    by_cases h : Matches candidate p
    · refine ⟨[], ?_, by rw [anyAccepts_cons_of_matches h]; rfl⟩
      rw [List.takeWhile_cons_of_neg (by simpa using h)]
      exact .nil
    · obtain ⟨ds, hds, he⟩ := ih
      obtain ⟨d, hd⟩ := exists_diagnosed candidate p
      refine ⟨d :: ds, ?_, ?_⟩
      · rw [List.takeWhile_cons_of_pos (by simpa using h)]
        exact .cons hd hds
      · rw [anyAccepts_cons_of_not_matches h, events_of_diagnosed hd, he]
        cases d <;> rfl

/-- A list in two parts: the second is looked at if the first has no match. -/
theorem anyAccepts_append (candidate : String) (xs ys : List String) :
    anyAccepts candidate (xs ++ ys) =
      if (anyAccepts candidate xs).result then anyAccepts candidate xs
      else ⟨(anyAccepts candidate ys).result,
        (anyAccepts candidate xs).events ++ (anyAccepts candidate ys).events⟩ := by
  induction xs with
  | nil => rfl
  | cons x xs ih =>
    by_cases h : Matches candidate x
    · rw [List.cons_append, anyAccepts_cons_of_matches h, anyAccepts_cons_of_matches h]; rfl
    · rw [List.cons_append, anyAccepts_cons_of_not_matches h, anyAccepts_cons_of_not_matches h, ih]
      cases hr : (anyAccepts candidate xs).result with
      | true => simp [hr]
      | false => simp

/-- **The result and the diagnostics of a list of patterns.**  The list matches
    iff a pattern without a slash is the candidate or one with a slash holds
    it.  Each pattern has exactly one diagnosis, a matching one none; the
    diagnostics are those of the patterns strictly before the first match, in
    order.  A list in two parts goes on to the second iff the first has no
    match. -/
theorem anyAccepts_trace (candidate : String) (patterns : List String) :
    ((anyAccepts candidate patterns).result = true ↔
      ∃ p ∈ patterns, ('/' ∉ p.toList ∧ p = candidate) ∨
        ('/' ∈ p.toList ∧ (Subnet.holds p candidate).result = true)) ∧
    (∃ ds, List.Forall₂ (Diagnosed candidate)
        (patterns.takeWhile fun p => !decide (Matches candidate p)) ds ∧
      (anyAccepts candidate patterns).events = ds.reduceOption) ∧
    (∀ p, ∃! d, Diagnosed candidate p d) ∧
    (∀ p d, Matches candidate p → Diagnosed candidate p d → d = none) ∧
    ∀ xs ys, patterns = xs ++ ys →
      (anyAccepts candidate patterns).events =
        if (anyAccepts candidate xs).result then (anyAccepts candidate xs).events
        else (anyAccepts candidate xs).events ++ (anyAccepts candidate ys).events := by
  refine ⟨anyAccepts_result_iff, anyAccepts_events candidate patterns, fun p => ?_,
    fun p d hm hd => hd.eq_none_of_matches hm, ?_⟩
  · obtain ⟨d, hd⟩ := exists_diagnosed candidate p
    exact ⟨d, hd, fun d' hd' => hd'.unique hd⟩
  · rintro xs ys rfl
    rw [anyAccepts_append]
    split_ifs <;> rfl

end Pattern

end AddressGate
