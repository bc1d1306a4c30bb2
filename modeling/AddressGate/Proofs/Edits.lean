/-
  Decisions while the lists are edited.

  * `Remote` is what a decision is about, and `Rules.outcome` the decision;
    `outcome_denied_iff` and `outcome_allowed_iff` say by which entries it is
    taken, for remote texts, known and unknown peers alike;
  * `outcome_push_denied` and `outcome_push_allowed` are the step lemmas: what
    one more entry keeps; `outcome_pushAll_denied` and `outcome_pushAll_allowed`
    say so of a sequence of them, by induction;
  * `outcome_edited`: how decisions move when entries are added or dropped, and
    that they depend on the sets of entries only.
-/
import AddressGate.Proofs.FailClosed

namespace AddressGate

/-! ## What decisions are about -/

/-- What a decision is about: a remote text, or the peer of a connection, which
    is unknown for some connections. -/
inductive Remote where
  | text (remote : String)
  | peer (remote : Option Address)
  deriving DecidableEq, Repr

/-- The remote matches an entry.  An unknown peer matches none. -/
def Remote.Matches : Remote → String → Prop
  | text remote, e => Pattern.Matches remote e
  | peer (some ip), e => Pattern.Matches ip.canonical.text e
  | peer none, _ => False

namespace Rules

variable {r r' : Rules} {q : Remote} {list : ListName} {e : String}

/-- The decision about a remote. -/
def outcome (r : Rules) : Remote → Outcome
  | .text remote => (r.evaluate remote).result
  | .peer remote => (r.evaluateAddress remote).result

/-- **A remote is denied iff the blacklist matches it, or a whitelist with
    entries does not.** -/
theorem outcome_denied_iff : r.outcome q = .denied ↔
    (∃ e ∈ r.entries .blacklist, q.Matches e) ∨
      (r.entries .whitelist ≠ [] ∧ ∀ e ∈ r.entries .whitelist, ¬ q.Matches e) := by
  rcases q with remote | _ | ip
  · exact evaluate_denied_iff
  · show (r.evaluateAddress none).result = .denied ↔ _
    rw [evaluateAddress_none_denied_iff]
    simp [Remote.Matches, entries]
  · exact evaluate_denied_iff

theorem outcome_allowed_iff : r.outcome q = .allowed ↔
    (∀ e ∈ r.entries .blacklist, ¬ q.Matches e) ∧
      (r.entries .whitelist = [] ∨ ∃ e ∈ r.entries .whitelist, q.Matches e) := by
  have hne : r.outcome q = .allowed ↔ ¬ r.outcome q = .denied := by
    cases r.outcome q <;> simp
  rw [hne, outcome_denied_iff]
  push Not
  exact and_congr_right fun _ => or_iff_not_imp_left.symm

/-! ## One more entry -/

theorem mem_entries_push {m : ListName} {f : String} :
    f ∈ (r.push list e).entries m ↔ f ∈ r.entries m ∨ (m = list ∧ f = e) := by
  by_cases hm : list = m
  · subst hm
    simp [push]
  · rw [push, entries_withEntries_of_ne r hm]
    simp [Ne.symm hm]

theorem entries_push_ne_nil {m : ListName} (h : r.entries m ≠ []) :
    (r.push list e).entries m ≠ [] := by
  obtain ⟨f, hf⟩ := List.exists_mem_of_ne_nil _ h
  exact List.ne_nil_of_mem (mem_entries_push.2 (Or.inl hf))

/-- A denial stays, unless the new entry is of the whitelist and matches. -/
theorem outcome_push_denied (h : r.outcome q = .denied)
    (he : list = .whitelist → ¬ q.Matches e) : (r.push list e).outcome q = .denied := by
  rw [outcome_denied_iff] at h ⊢
  rcases h with ⟨f, hf, hm⟩ | ⟨hne, hno⟩
  · exact Or.inl ⟨f, mem_entries_push.2 (Or.inl hf), hm⟩
  · refine Or.inr ⟨entries_push_ne_nil hne, fun f hf => ?_⟩
    rcases mem_entries_push.1 hf with hf | ⟨rfl, rfl⟩
    · exact hno f hf
    · exact he rfl

/-- Where there is a whitelist, a permission stays, unless the new entry is of
    the blacklist and matches. -/
theorem outcome_push_allowed (hne : r.entries .whitelist ≠ []) (h : r.outcome q = .allowed)
    (he : list = .blacklist → ¬ q.Matches e) : (r.push list e).outcome q = .allowed := by
  rw [outcome_allowed_iff] at h ⊢
  obtain ⟨hno, hyes⟩ := h
  obtain ⟨f, hf, hm⟩ := hyes.resolve_left hne
  refine ⟨fun g hg => ?_, Or.inr ⟨f, mem_entries_push.2 (Or.inl hf), hm⟩⟩
  rcases mem_entries_push.1 hg with hg | ⟨rfl, rfl⟩
  · exact hno g hg
  · exact he rfl

/-- The first entry of a whitelist denies what it does not match. -/
theorem outcome_push_first_denied_iff (hnil : r.entries .whitelist = [])
    (h : r.outcome q = .allowed) : (r.push .whitelist e).outcome q = .denied ↔ ¬ q.Matches e := by
  obtain ⟨hno, -⟩ := outcome_allowed_iff.1 h
  have hsingle : (r.push .whitelist e).entries .whitelist = [e] := by
    rw [push, entries_withEntries_self, hnil, List.nil_append]
  have hblack : (r.push .whitelist e).entries .blacklist = r.entries .blacklist := rfl
  rw [outcome_denied_iff, hsingle, hblack]
  constructor
  · rintro (⟨f, hf, hm⟩ | ⟨-, hn⟩)
    · exact absurd hm (hno f hf)
    · exact hn e (List.mem_singleton_self e)
  · intro hn
    exact Or.inr ⟨List.cons_ne_nil e [], by simpa using hn⟩

/-! ## A sequence of new entries -/

/-- The rules with more entries, each at the end of its list, in order. -/
def pushAll (r : Rules) (ps : List (ListName × String)) : Rules :=
  ps.foldl (fun r p => r.push p.1 p.2) r

/-- **A denial stays while no entry is added to the whitelist that matches.** -/
theorem outcome_pushAll_denied {ps : List (ListName × String)} (h : r.outcome q = .denied)
    (hps : ∀ e, (.whitelist, e) ∈ ps → ¬ q.Matches e) : (r.pushAll ps).outcome q = .denied := by
  induction ps generalizing r with
  | nil => exact h
  | cons p ps ih =>
    obtain ⟨list, e⟩ := p
    refine ih (outcome_push_denied h ?_) fun f hf => hps f (List.mem_cons_of_mem _ hf)
    rintro rfl
    exact hps e List.mem_cons_self

/-- **Where there is a whitelist, a permission stays while no entry is added to
    the blacklist that matches.** -/
theorem outcome_pushAll_allowed {ps : List (ListName × String)}
    (hne : r.entries .whitelist ≠ []) (h : r.outcome q = .allowed)
    (hps : ∀ e, (.blacklist, e) ∈ ps → ¬ q.Matches e) : (r.pushAll ps).outcome q = .allowed := by
  induction ps generalizing r with
  | nil => exact h
  | cons p ps ih =>
    obtain ⟨list, e⟩ := p
    refine ih (entries_push_ne_nil hne) (outcome_push_allowed hne h ?_) fun f hf =>
      hps f (List.mem_cons_of_mem _ hf)
    rintro rfl
    exact hps e List.mem_cons_self

/-! ## Other edits -/

theorem outcome_clear_blacklist (h : r.outcome q = .allowed) :
    (r.clear .blacklist).outcome q = .allowed :=
  outcome_allowed_iff.2 ⟨nofun, (outcome_allowed_iff.1 h).2⟩

/-- **Decisions depend on the sets of entries only.** -/
theorem outcome_congr (h : ∀ list e, e ∈ r.entries list ↔ e ∈ r'.entries list) :
    r.outcome q = r'.outcome q := by
  have hnil : r.entries .whitelist = [] ↔ r'.entries .whitelist = [] := by
    simp only [List.eq_nil_iff_forall_not_mem, h]
  refine Outcome.eq_of_denied_iff ?_
  rw [outcome_denied_iff, outcome_denied_iff, ne_eq, ne_eq, hnil]
  simp only [h]

/-- **How decisions move when the lists are edited.**  A sequence of new entries
    never permits what was denied, unless one of them is of the whitelist and
    matches, so the blacklist alone never does; and where there is a whitelist,
    it never denies what was permitted, unless one of them is of the blacklist
    and matches, so the whitelist alone never does.  The first entry of a
    whitelist denies what was permitted iff it does not match, as for every
    unknown peer, and permits nothing.  Without its entries the blacklist denies
    nothing new.  Rules with the same sets of entries decide alike. -/
theorem outcome_edited (r : Rules) (q : Remote) :
    (∀ ps, (∀ e, (.whitelist, e) ∈ ps → ¬ q.Matches e) →
      r.outcome q = .denied → (r.pushAll ps).outcome q = .denied) ∧
    (∀ ps, (∀ e, (.blacklist, e) ∈ ps → ¬ q.Matches e) → r.whitelist ≠ [] →
      r.outcome q = .allowed → (r.pushAll ps).outcome q = .allowed) ∧
    (r.whitelist = [] → ∀ e,
      (r.outcome q = .allowed → ((r.push .whitelist e).outcome q = .denied ↔ ¬ q.Matches e)) ∧
      (r.outcome q = .denied → (r.push .whitelist e).outcome q = .denied) ∧
      r.outcome (.peer none) = .allowed ∧ (r.push .whitelist e).outcome (.peer none) = .denied) ∧
    (r.outcome q = .allowed → (r.clear .blacklist).outcome q = .allowed) ∧
    ∀ r' : Rules, (∀ list, {e | e ∈ r.entries list} = {e | e ∈ r'.entries list}) →
      r'.outcome q = r.outcome q := by
  refine ⟨fun ps hps h => outcome_pushAll_denied h hps,
    fun ps hps hne h => outcome_pushAll_allowed hne h hps, fun hnil e => ?_,
    outcome_clear_blacklist, fun r' h => ?_⟩
  · have hunknown : r.outcome (.peer none) = .allowed :=
      outcome_allowed_iff.2 ⟨fun _ _ => id, Or.inl hnil⟩
    refine ⟨outcome_push_first_denied_iff hnil, fun h => ?_, hunknown,
      (outcome_push_first_denied_iff hnil hunknown).2 id⟩
    -- only the blacklist denies where there is no whitelist
    rw [outcome_denied_iff] at h ⊢
    exact Or.inl (h.resolve_right fun hw => hw.1 hnil)
  · exact outcome_congr fun list e => (Set.ext_iff.1 (h list) e).symm

end Rules

end AddressGate
