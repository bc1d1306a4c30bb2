/-
  Reading a list of texts.

  Where a list is due (`State.AwaitsList`), a written value is read as a list of
  texts, or it is none and the document is refused whatever follows:
  `State.list_outcome`.  The same holds of the entries of a list
  (`State.entries_outcome`).  A document that ends on the way is cut off, as
  every step is one of `State.ReadsOpen`.
-/
import AddressGate.Proofs.Document.Number
import AddressGate.Proofs.Document.Quotation

namespace AddressGate.Document

/-! ## First characters -/

/-- The first character of a value, by its kind. -/
inductive Head : Value → Char → Prop
  | text (s : String) : Head (.text s) '\"'
  | list (vs : List Value) : Head (.list vs) '['
  | object (ms : List (String × Value)) : Head (.object ms) '\x7b'
  | other {v : Value} {c : Char} (h : c ∉ [' ', '\n', '\t', '\r', '\"', '[', ']', '\x7b']) :
      Head v c

theorem exists_head {v : Value} {t : List Char} (h : Written v t) :
    ∃ c ts, t = c :: ts ∧ Head v c := by
  cases h with
  | null => exact ⟨'n', _, rfl, .other (by decide)⟩
  | boolean b =>
    cases b with
    | true => exact ⟨'t', _, rfl, .other (by decide)⟩
    | false => exact ⟨'f', _, rfl, .other (by decide)⟩
  | number n =>
    obtain ⟨c, cs, p, q, hn, hstart, -⟩ := NumberPart.leads_chars n
    have hmarks := NumberPart.not_mem_marks_of_start? hstart
    refine ⟨c, cs, hn, .other fun hc => hmarks ?_⟩
    exact (by decide : [' ', '\n', '\t', '\r', '\"', '[', ']', '\x7b'] ⊆ NumberPart.marks) hc
  | text => exact ⟨'\"', _, rfl, .text _⟩
  | emptyList => exact ⟨'[', _, rfl, .list _⟩
  | list => exact ⟨'[', _, rfl, .list _⟩
  | emptyObject => exact ⟨'\x7b', _, rfl, .object _⟩
  | object => exact ⟨'\x7b', _, rfl, .object _⟩

namespace Head

variable {v : Value} {c : Char}

theorem isSpace (h : Head v c) : isSpace c = false := by
  cases h with
  | text | list | object => rfl
  | other h => simp_all [Document.isSpace]

theorem ne_closing (h : Head v c) : c ≠ ']' := by
  cases h with
  | text | list | object => decide
  | other h => exact fun hc => h (by simp [hc])

theorem ne_quote (h : Head v c) (hv : ∀ x, v ≠ .text x) : c ≠ '\"' := by
  cases h with
  | text x => exact absurd rfl (hv x)
  | list | object => decide
  | other h => exact fun hc => h (by simp [hc])

theorem ne_bracket (h : Head v c) (hv : ∀ vs, v ≠ .list vs) : c ≠ '[' := by
  cases h with
  | list vs => exact absurd rfl (hv vs)
  | text | object => decide
  | other h => exact fun hc => h (by simp [hc])

theorem ne_brace (h : Head v c) (hv : ∀ ms, v ≠ .object ms) : c ≠ '\x7b' := by
  cases h with
  | object ms => exact absurd rfl (hv ms)
  | text | list => decide
  | other h => exact fun hc => h (by simp [hc])

end Head

namespace State

variable {s t : State} {c : Char} {cs w ts : List Char} {home : Home} {rev : List String}

/-! ## Steps -/

theorem step_eq_stepOther (hc : isSpace c = false) : s.step c = s.stepOther c := by
  rw [step, if_neg]
  rintro ⟨-, h⟩
  rw [hc] at h; cases h

theorem reads_space (hs : s.skipsSpace = true) (hc : isSpace c = true) : s.Reads c s := by
  rw [Reads, step, if_pos ⟨hs, hc⟩]

theorem leads_blank (hs : s.skipsSpace = true) (hw : IsBlank w) : Leads Reads s w s :=
  .stay fun c hc => reads_space hs (hw c hc)

theorem leadsOpen_blank (hs : s.skipsSpace = true) (ho : s.Unfinished) (hw : IsBlank w) :
    Leads ReadsOpen s w s :=
  .stay fun c hc => ⟨ho, reads_space hs (hw c hc)⟩

theorem dead_of_refuse {expected : Expected} (h : refuse expected c = .ok t) : t.Dead := by
  rw [refuse] at h
  cases hv : expected.refuse c with
  | error f => rw [hv] at h; cases h
  | ok v => rw [hv] at h; cases h; exact .mistyped expected v

/-! ## Texts -/

/-- What is read as part of a text is read as part of a key. -/
theorem reads_key (d : Draft) {q q' : Quotation} (h : q.Reads c q') :
    (key d q).Reads c (key d q') := by
  rw [Quotation.Reads] at h
  rw [Reads, step, if_neg (by simp [State.skipsSpace]), stepOther, h]; rfl

/-- What is read as part of a text is read as part of an entry. -/
theorem reads_entry (home : Home) (rev : List String) {q q' : Quotation} (h : q.Reads c q') :
    (entry home rev q).Reads c (entry home rev q') := by
  rw [Quotation.Reads] at h
  rw [Reads, step, if_neg (by simp [State.skipsSpace]), stepOther, h]; rfl

theorem leads_key (d : Draft) {q q' : Quotation} (h : Leads Quotation.Reads q cs q') :
    Leads ReadsOpen (key d q) cs (key d q') :=
  h.map (key d) fun hc => ⟨⟨.endInText, rfl, rfl⟩, reads_key d hc⟩

theorem leads_entry (home : Home) (rev : List String) {q q' : Quotation}
    (h : Leads Quotation.Reads q cs q') :
    Leads ReadsOpen (entry home rev q) cs (entry home rev q') :=
  h.map (entry home rev) fun hc => ⟨⟨.endInText, rfl, rfl⟩, reads_entry home rev hc⟩

/-! ## Entries -/

/-- An entry is due. -/
inductive AwaitsEntry (home : Home) (rev : List String) : State → Prop
  | first : AwaitsEntry home rev (entries home rev .first)
  | comma : AwaitsEntry home rev (entries home rev .comma)

theorem AwaitsEntry.unfinished (h : AwaitsEntry home rev s) : s.Unfinished := by
  cases h <;> exact ⟨_, rfl, rfl⟩

theorem AwaitsEntry.skipsSpace (h : AwaitsEntry home rev s) : s.skipsSpace = true := by
  cases h <;> rfl

theorem AwaitsEntry.step_eq (h : AwaitsEntry home rev s) (hc : isSpace c = false) (hb : c ≠ ']') :
    s.step c = beginEntry home rev c := by
  rw [step_eq_stepOther hc]
  cases h <;> simp [stepOther, stepEntries, hb]

theorem leads_text {x : String} (h : Element (.text x) ts) (hs : AwaitsEntry home rev s) :
    Leads ReadsOpen s ts (entries home (x :: rev) .next) := by
  cases h with
  | mk hw ht hw' =>
    cases ht with
    | @text _ q hq =>
      have hopen : s.ReadsOpen '\"' (entry home rev .start) := by
        refine ⟨hs.unfinished, ?_⟩
        rw [Reads, hs.step_eq (by decide) (by decide)]; rfl
      have htext := leads_entry home rev (Quotation.leads_letters hq [])
      have hclose : (entry home rev ⟨.outside, x.toList.reverse⟩).ReadsOpen '\"'
          (entries home (String.ofList x.toList.reverse.reverse :: rev) .next) :=
        ⟨⟨.endInText, rfl, rfl⟩, rfl⟩
      rw [List.append_nil] at htext
      rw [List.reverse_reverse, String.ofList_toList] at hclose
      have hquoted := Leads.cons hopen (htext.snoc hclose)
      exact ((leadsOpen_blank hs.skipsSpace hs.unfinished hw).append hquoted).append
        (leadsOpen_blank rfl ⟨_, rfl, rfl⟩ hw')

theorem refuses_no_text {v : Value} (h : Element v ts) (hs : AwaitsEntry home rev s)
    (hv : ∀ x, v ≠ .text x) : s.Refuses ts := by
  obtain ⟨hw, ht, hw'⟩ := h
  obtain ⟨c, cs, rfl, hc⟩ := exists_head ht
  refine refuses_append (refuses_of_leads (leads_blank hs.skipsSpace hw) ?_) _
  refine refuses_of_dead_step (fun t ht => ?_) cs
  rw [hs.step_eq hc.isSpace hc.ne_closing, beginEntry, if_neg (hc.ne_quote hv)] at ht
  exact dead_of_refuse ht

/-- **Entries are read as texts, or refused.** -/
theorem entries_outcome {vs : List Value} (h : Elements vs ts) (hs : AwaitsEntry home rev s) :
    (∃ xs : List String, vs = xs.map .text ∧
      Leads ReadsOpen s ts (entries home (xs.reverse ++ rev) .next)) ∨
    ((∀ xs : List String, vs ≠ xs.map .text) ∧ s.Refuses ts) := by
  -- Each text goes in front of the reversed entries, and a comma awaits the next one.
  induction vs generalizing s rev ts with
  | nil => cases h
  | cons v vs ih =>
    by_cases hv : ∃ x, v = .text x
    · obtain ⟨x, rfl⟩ := hv
      cases h with
      | last h => exact .inl ⟨[x], rfl, leads_text h hs⟩
      | @more _ _ t ts h hts =>
        have hcomma : (entries home (x :: rev) .next).ReadsOpen ','
            (entries home (x :: rev) .comma) := ⟨⟨.endInList, rfl, rfl⟩, rfl⟩
        have hfirst := (leads_text h hs).snoc hcomma
        rw [List.append_cons]
        rcases ih hts .comma with ⟨xs, rfl, hxs⟩ | ⟨hne, hr⟩
        · exact .inl ⟨x :: xs, rfl, by simpa using hfirst.append hxs⟩
        · refine .inr ⟨fun ys hys => ?_, refuses_of_leads (leads_of_open hfirst) hr⟩
          obtain ⟨_, xs, -, -, hxs⟩ := List.map_eq_cons_iff.1 hys.symm
          exact hne xs hxs.symm
    · rw [not_exists] at hv
      refine .inr ⟨fun xs hxs => ?_, ?_⟩
      · obtain ⟨x, _, -, hx, -⟩ := List.map_eq_cons_iff.1 hxs.symm
        exact hv x hx.symm
      · cases h with
        | last h => exact refuses_no_text h hs hv
        | more h => exact refuses_append (refuses_no_text h hs hv) _

/-! ## Lists -/

/-- A list is due. -/
inductive AwaitsList : Home → State → Prop
  | listDue (home : Home) : AwaitsList home (listDue home)
  | first (d : Draft) (l : ListName) : AwaitsList ⟨.list, d, l⟩ (element d l .first)
  | comma (d : Draft) (l : ListName) : AwaitsList ⟨.list, d, l⟩ (element d l .comma)

theorem AwaitsList.unfinished (h : AwaitsList home s) : s.Unfinished := by
  cases h <;> exact ⟨_, rfl, rfl⟩

theorem AwaitsList.skipsSpace (h : AwaitsList home s) : s.skipsSpace = true := by
  cases h <;> rfl

theorem AwaitsList.step_eq (h : AwaitsList home s) (hc : isSpace c = false) (hb : c ≠ ']') :
    s.step c = beginList home c := by
  rw [step_eq_stepOther hc]
  cases h <;> simp [stepOther, stepElement, hb]

theorem AwaitsList.readsOpen_bracket (h : AwaitsList home s) :
    s.ReadsOpen '[' (entries home [] .first) := by
  refine ⟨h.unfinished, ?_⟩
  rw [Reads, h.step_eq (by decide) (by decide)]; rfl

theorem afterList_unfinished (home : Home) (xs : List String) : (afterList home xs).Unfinished := by
  obtain ⟨outer, d, l⟩ := home
  cases outer <;> cases l <;> exact ⟨_, rfl, rfl⟩

theorem afterList_skipsSpace (home : Home) (xs : List String) :
    (afterList home xs).skipsSpace = true := by
  obtain ⟨outer, d, l⟩ := home
  cases outer <;> cases l <;> rfl

theorem readsOpen_closing (home : Home) (rev : List String) {turn : Turn} (hturn : turn ≠ .comma) :
    (entries home rev turn).ReadsOpen ']' (afterList home rev.reverse) := by
  cases turn with
  | first => exact ⟨⟨.endInList, rfl, rfl⟩, rfl⟩
  | next => exact ⟨⟨.endInList, rfl, rfl⟩, rfl⟩
  | comma => exact absurd rfl hturn

theorem refuses_no_list {v : Value} (h : Written v ts) (hs : AwaitsList home s)
    (hv : ∀ vs, v ≠ .list vs) : s.Refuses ts := by
  obtain ⟨c, cs, rfl, hc⟩ := exists_head h
  refine refuses_of_dead_step (fun t ht => ?_) cs
  rw [hs.step_eq hc.isSpace hc.ne_closing, beginList, if_neg (hc.ne_bracket hv)] at ht
  exact dead_of_refuse ht

theorem written_list_outcome {vs : List Value} (h : Written (.list vs) ts)
    (hs : AwaitsList home s) :
    (∃ xs : List String, vs = xs.map .text ∧ Leads ReadsOpen s ts (afterList home xs)) ∨
    ((∀ xs : List String, vs ≠ xs.map .text) ∧ s.Refuses ts) := by
  cases h with
  | emptyList hw =>
    have hblank := leadsOpen_blank (s := entries home [] .first) rfl ⟨_, rfl, rfl⟩ hw
    have hclose := readsOpen_closing home [] (by decide : Turn.first ≠ .comma)
    exact .inl ⟨[], rfl, .cons hs.readsOpen_bracket (hblank.snoc hclose)⟩
  | list h =>
    rcases entries_outcome h (AwaitsEntry.first : AwaitsEntry home [] _) with
      ⟨xs, rfl, hxs⟩ | ⟨hne, hr⟩
    · rw [List.append_nil] at hxs
      have hclose := readsOpen_closing home xs.reverse (by decide : Turn.next ≠ .comma)
      rw [List.reverse_reverse] at hclose
      exact .inl ⟨xs, rfl, .cons hs.readsOpen_bracket (hxs.snoc hclose)⟩
    · have hopen := leads_of_open (.single hs.readsOpen_bracket)
      exact .inr ⟨hne, refuses_append (refuses_of_leads hopen hr) _⟩

/-- **A value is read as a list of texts, or refused.** -/
theorem list_outcome {v : Value} (h : Element v ts) (hs : AwaitsList home s) :
    (∃ xs, v = .texts xs ∧ Leads ReadsOpen s ts (afterList home xs)) ∨
    ((∀ xs, v ≠ .texts xs) ∧ s.Refuses ts) := by
  obtain ⟨hw, h, hw'⟩ := h
  have hbefore := leadsOpen_blank hs.skipsSpace hs.unfinished hw
  by_cases hv : ∃ vs, v = .list vs
  · obtain ⟨vs, rfl⟩ := hv
    rcases written_list_outcome h hs with ⟨xs, rfl, hxs⟩ | ⟨hne, hr⟩
    · have hafter :=
        leadsOpen_blank (afterList_skipsSpace home xs) (afterList_unfinished home xs) hw'
      exact .inl ⟨xs, rfl, (hbefore.append hxs).append hafter⟩
    · refine .inr ⟨fun xs hxs => hne xs (Value.list.inj hxs), ?_⟩
      exact refuses_append (refuses_of_leads (leads_of_open hbefore) hr) _
  · rw [not_exists] at hv
    refine .inr ⟨fun xs => hv _, ?_⟩
    exact refuses_append (refuses_of_leads (leads_of_open hbefore) (refuses_no_list h hs hv)) _

end State

end AddressGate.Document
