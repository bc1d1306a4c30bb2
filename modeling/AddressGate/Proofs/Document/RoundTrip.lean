/-
  Reading back what was written down, whole or damaged.

  Rules are written as a document that is read as the same rules, and along the
  way every state is `State.Unfinished` (`leads_toDocument`).  So a document that
  was cut off is never read as fewer rules: `Rules.ofDocument_toDocument` and
  `Rules.ofDocument_damaged`.
-/
import AddressGate.Proofs.Document.Acceptance
import AddressGate.Proofs.Document.Writer
import AddressGate.Proofs.WellFormed

namespace AddressGate

open Document

namespace Document

/-! ## The path of a written document -/

namespace State

variable {s t : State} {c : Char} {cs ds : List Char}

/-- A list of the rules that is written as a member is read as that list. -/
theorem leads_listMember {r : Rules} {d : Draft} {l : ListName} (hs : AwaitsKey d s)
    (hd : d.get? l = none) :
    Leads ReadsOpen s (listMember r l) (member (d.set l (r.entries l)) .next) := by
  rcases listMember_outcome (member_listMember r l) hs hd with ⟨es, hes, h⟩ | ⟨hne, -⟩
  · rwa [Draft.texts_injective hes]
  · exact absurd rfl (hne _)

theorem toList_toDocument (r : Rules) : r.toDocument.toList =
    '\x7b' :: (listMember r .blacklist ++ ',' :: (listMember r .whitelist ++ ['\x7d'])) := by
  rw [Rules.toDocument, String.toList_ofList, ListName.all]
  simp

theorem leads_toDocument (r : Rules) : Leads ReadsOpen .start r.toDocument.toList (closed r) := by
  have hopen : ReadsOpen .start '\x7b' (member .empty .first) := ⟨⟨.endInValue, rfl, rfl⟩, rfl⟩
  have hcomma : ReadsOpen (member ⟨some r.blacklist, none⟩ .next) ','
      (member ⟨some r.blacklist, none⟩ .comma) := ⟨⟨.endInObject, rfl, rfl⟩, rfl⟩
  have hclose : ReadsOpen (member ⟨some r.blacklist, some r.whitelist⟩ .next) '\x7d' (closed r) :=
    ⟨⟨.endInObject, rfl, rfl⟩, rfl⟩
  have hblacklist : Leads ReadsOpen (member .empty .first) (listMember r .blacklist)
      (member ⟨some r.blacklist, none⟩ .next) := leads_listMember .first rfl
  have hwhitelist : Leads ReadsOpen (member ⟨some r.blacklist, none⟩ .comma)
      (listMember r .whitelist) (member ⟨some r.blacklist, some r.whitelist⟩ .next) :=
    leads_listMember .comma rfl
  rw [toList_toDocument]
  exact .cons hopen (hblacklist.append (.cons hcomma (hwhitelist.append (.single hclose))))

/-! ## Cut off and continued -/

/-- On a path of unfinished states, all but the last are. -/
theorem unfinished_of_leads_append (h : Leads ReadsOpen s (cs ++ ds) t) (hds : ds ≠ []) :
    ∃ u, Leads Reads s cs u ∧ u.Unfinished := by
  obtain ⟨u, hcs, hrest⟩ := h.exists_of_append
  refine ⟨u, leads_of_open hcs, ?_⟩
  cases hrest with
  | nil => exact absurd rfl hds
  | cons hc _ => exact hc.1

theorem isBlank_iff : IsBlank cs ↔ ∀ c ∈ cs, c ∈ [' ', '\n', '\t', '\r'] := by
  simp [IsBlank, isSpace, or_assoc]

/-- Behind the rules nothing but white space may follow. -/
theorem closed_outcome (r : Rules) (o : Nat) (cs : List Char) :
    (IsBlank cs ∧ (closed r).run o cs = .ok r) ∨
    (¬ IsBlank cs ∧ ∃ o', (closed r).run o cs = .error ⟨.trailingCharacters, o'⟩) := by
  induction cs generalizing o with
  | nil => exact .inl ⟨isBlank_nil, rfl⟩
  | cons c cs ih =>
    cases hc : isSpace c with
    | true =>
      have hread : (closed r).step c = .ok (closed r) := reads_space rfl hc
      rw [run, hread]
      have hblank : IsBlank (c :: cs) ↔ IsBlank cs := by simp [IsBlank, hc]
      rw [hblank]
      exact ih _
    | false =>
      refine .inr ⟨fun h => ?_, ?_⟩
      · rw [h c (by simp)] at hc; cases hc
      · rw [run, step_eq_stepOther hc]
        exact ⟨_, rfl⟩

end State

end Document

/-! ## Loading -/

namespace Rules

theorem error_of_unfinished {t : String} {s : State} (h : Leads State.Reads .start t.toList s)
    (hs : s.Unfinished) : ∃ e, ofDocument t = .error e ∧ e.cause.kind = .truncated := by
  obtain ⟨cause, hc, hkind⟩ := hs
  obtain ⟨o, hrun⟩ := State.run_of_leads h 0
  have hread : Document.read t.toList = .error ⟨cause, o⟩ := by
    rw [Document.read, ← List.append_nil t.toList, hrun, State.run, hc]; rfl
  rw [ofDocument, hread]
  exact ⟨_, rfl, hkind⟩

theorem listWarnings_eq (r : Rules) (l : ListName) :
    r.listWarnings l = ((r.entries l).filter fun e => ¬ Pattern.isWellFormed e).map fun e =>
      if '/' ∈ e.toList then .malformedEntry l e else .verbatimEntry l e := by
  rw [listWarnings]
  induction r.entries l with
  | nil => rfl
  | cons e es ih =>
    by_cases hw : Pattern.isWellFormed e
    · have hnone : entryWarning? l e = none := if_pos hw
      rw [List.filterMap_cons_none hnone, List.filter_cons_of_neg (by simpa using hw), ih]
    · have hsome : entryWarning? l e = some _ :=
        Pattern.entryWarning?_eq_some_iff.2 ⟨eq_false_of_ne_true hw, rfl⟩
      rw [List.filterMap_cons_some hsome, List.filter_cons_of_pos (by simpa using hw),
        List.map_cons, ih]

/-- **Rules that are written down are read as the same rules**, with a warning
    for each entry that is not well-formed. -/
theorem ofDocument_toDocument (r : Rules) :
    ofDocument r.toDocument = .ok ⟨r, ListName.all.flatMap fun l =>
      ((r.entries l).filter fun e => ¬ Pattern.isWellFormed e).map fun e =>
        if '/' ∈ e.toList then .malformedEntry l e else .verbatimEntry l e⟩ := by
  rw [ofDocument_of_leads (State.leads_of_open (State.leads_toDocument r)), withWarnings, warnings,
    listWarnings_eq, listWarnings_eq, ListName.all, List.flatMap_cons, List.flatMap_singleton]

/-- The rules of a document with more text behind it. -/
theorem ofDocument_toDocument_append (r : Rules) (u : String) :
    (IsBlank u.toList ∧ ofDocument (r.toDocument ++ u) = .ok r.withWarnings) ∨
    (¬ IsBlank u.toList ∧
      ∃ e, ofDocument (r.toDocument ++ u) = .error e ∧ e.cause.kind = .malformed) := by
  obtain ⟨o, hrun⟩ := State.run_of_leads (State.leads_of_open (State.leads_toDocument r)) 0
  have hread : Document.read (r.toDocument ++ u).toList = (State.closed r).run o u.toList := by
    rw [Document.read, String.toList_append, hrun]
  rw [ofDocument, hread]
  rcases State.closed_outcome r o u.toList with ⟨hu, h⟩ | ⟨hu, o', h⟩
  · exact .inl ⟨hu, by rw [h]⟩
  · exact .inr ⟨hu, by rw [h]; exact ⟨_, rfl, rfl⟩⟩

/-- **A damaged document gives no rules.**  If it was cut off, then it is found
    to be cut off; nothing but white space may be added.  The call that loads a
    damaged document reports nothing and changes nothing. -/
theorem ofDocument_damaged (r : Rules) :
    (∀ t : String, t.toList <+: r.toDocument.toList → t ≠ r.toDocument →
      ∃ e, ofDocument t = .error e ∧ e.cause.kind = .truncated ∧
        ∀ s : Session, s.perform (.document t) = ⟨(s, .noDocument e), []⟩) ∧
    (∀ u : String, (∀ c ∈ u.toList, c ∈ [' ', '\n', '\t', '\r']) →
      ofDocument (r.toDocument ++ u) = .ok r.withWarnings ∧
        ∀ s : Session, s.perform (.document (r.toDocument ++ u)) =
          ⟨({ s with rules := r }, .rules r), r.warnings⟩) ∧
    (∀ u : String, (∃ c ∈ u.toList, c ∉ [' ', '\n', '\t', '\r']) →
      ∃ e, ofDocument (r.toDocument ++ u) = .error e ∧ e.cause.kind = .malformed ∧
        ∀ s : Session, s.perform (.document (r.toDocument ++ u)) =
          ⟨(s, .noDocument e), []⟩) := by
  refine ⟨fun t ⟨ds, hds⟩ hne => ?_, fun u hu => ?_, fun u hu => ?_⟩
  · have hrest : ds ≠ [] := by
      rintro rfl
      rw [List.append_nil] at hds
      exact hne (String.toList_inj.1 hds)
    have hpath := State.leads_toDocument r
    rw [← hds] at hpath
    obtain ⟨s, hs, hopen⟩ := State.unfinished_of_leads_append hpath hrest
    obtain ⟨e, he, hkind⟩ := error_of_unfinished hs hopen
    exact ⟨e, he, hkind, fun s => s.perform_document_of_error he⟩
  · rcases ofDocument_toDocument_append r u with ⟨-, h⟩ | ⟨hnot, -⟩
    · exact ⟨h, fun s => s.perform_document_of_ok h⟩
    · exact absurd (State.isBlank_iff.2 hu) hnot
  · rcases ofDocument_toDocument_append r u with ⟨hall, -⟩ | ⟨-, h⟩
    · obtain ⟨c, hc, hnot⟩ := hu
      exact absurd (State.isBlank_iff.1 hall c hc) hnot
    · obtain ⟨e, he, hkind⟩ := h
      exact ⟨e, he, hkind, fun s => s.perform_document_of_error he⟩

/-- A document that was cut off within an escape, and one that goes on behind a
    line feed. -/
theorem ofDocument_damaged_escape :
    (∃ e, ofDocument "\x7b\"blacklist\":[\"\\u00" = .error e ∧ e.cause.kind = .truncated) ∧
    ∃ e, ofDocument ((⟨["\x00"], []⟩ : Rules).toDocument ++ "\n]") = .error e ∧
      e.cause.kind = .malformed := by
  obtain ⟨hcut, -, hmore⟩ := ofDocument_damaged ⟨["\x00"], []⟩
  obtain ⟨e, he, hkind, -⟩ := hcut "\x7b\"blacklist\":[\"\\u00" (by decide) (by decide)
  obtain ⟨e', he', hkind', -⟩ := hmore "\n]" ⟨']', by decide, by decide⟩
  exact ⟨⟨e, he, hkind⟩, e', he', hkind'⟩

end Rules

end AddressGate
