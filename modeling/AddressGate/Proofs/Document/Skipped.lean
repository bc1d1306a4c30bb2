/-
  Ignored values are passed over, whatever they are and however they are
  written.

  * `Skipped.Due outer s`: a value is due in the state `s`, within the brackets
    `outer`; `Skipped.Behind outer s`: the reader is behind a value there, which
    it does not notice yet if the value is a number;
  * `Skipped.skips_written`: a written value leads from the one to the other.
    The proof follows the grammar, one case for each way to write a value.
-/
import AddressGate.Proofs.Document.Number
import AddressGate.Proofs.Document.Quotation

namespace AddressGate.Document

namespace Skipped

variable {s : Skipped} {b : Bracket} {outer : List Bracket} {c : Char} {t w : List Char}

/-- A value is due within some brackets. -/
inductive Due : List Bracket → Skipped → Prop
  | value (outer : List Bracket) : Due outer ⟨.value, outer⟩
  | opened (outer : List Bracket) : Due (.list :: outer) ⟨.opened .list, outer⟩

/-- A key of an object within some brackets is due. -/
inductive KeyDue : List Bracket → Skipped → Prop
  | key (outer : List Bracket) : KeyDue outer ⟨.key, outer⟩
  | opened (outer : List Bracket) : KeyDue outer ⟨.opened .object, outer⟩

/-- A value within some brackets was read. -/
inductive Behind (outer : List Bracket) : Skipped → Prop
  | after : Behind outer ⟨.after, outer⟩
  | number {p : NumberPart} (h : p.needsDigit = false) : Behind outer ⟨.number p, outer⟩

/-- The characters are passed over as a value within some brackets. -/
def Skips (outer : List Bracket) (s : Skipped) (t : List Char) : Prop :=
  ∃ u, Leads Reads s t u ∧ Behind outer u

/-! ## Before a value -/

theorem Due.reads_space (h : Due outer s) (hc : isSpace c = true) : s.Reads c s := by
  cases h <;> simp [Reads, step, hc, pure, Except.pure]

theorem KeyDue.reads_space (h : KeyDue outer s) (hc : isSpace c = true) : s.Reads c s := by
  cases h <;> simp [Reads, step, hc, pure, Except.pure]

theorem Due.leads_blank (h : Due outer s) (hw : IsBlank w) : Leads Reads s w s :=
  .stay fun c hc => h.reads_space (hw c hc)

theorem KeyDue.leads_blank (h : KeyDue outer s) (hw : IsBlank w) : Leads Reads s w s :=
  .stay fun c hc => h.reads_space (hw c hc)

/-- The first character of a value. -/
theorem Due.reads_begin {u : Skipped} (h : Due outer s) (hc : isSpace c = false) (hb : c ≠ ']')
    (hu : begin c outer = .ok u) : s.Reads c u := by
  cases h <;> simp [Reads, step, hc, hu, hb, Bracket.closing, pure, bind, Except.pure, Except.bind]

theorem KeyDue.reads_quote (h : KeyDue outer s) :
    s.Reads '\"' ⟨.keyText .outside, .object :: outer⟩ := by
  cases h <;> rfl

/-! ## Behind a value -/

theorem Behind.step_eq (h : Behind outer s) (hc : EndsValue c) : s.step c = proceed c outer := by
  cases h with
  | after => rfl
  | number hp => simp only [step, NumberPart.step_of_endsValue hc hp]; rfl

theorem Behind.reads_space (h : Behind (b :: outer) s) (hc : isSpace c = true) :
    s.Reads c ⟨.after, b :: outer⟩ := by
  rw [Reads, h.step_eq (.inl hc)]
  simp only [proceed, if_pos hc]

theorem Behind.reads_comma_list (h : Behind (.list :: outer) s) :
    s.Reads ',' ⟨.value, .list :: outer⟩ := by
  rw [Reads, h.step_eq (.inr (.inl rfl))]; rfl

theorem Behind.reads_comma_object (h : Behind (.object :: outer) s) :
    s.Reads ',' ⟨.key, outer⟩ := by
  rw [Reads, h.step_eq (.inr (.inl rfl))]; rfl

theorem Behind.reads_closing (h : Behind (b :: outer) s) :
    s.Reads b.closing ⟨.after, outer⟩ := by
  have hc : EndsValue b.closing := by cases b <;> simp [EndsValue, Bracket.closing]
  rw [Reads, h.step_eq hc]
  cases b <;> rfl

/-- White space behind a value. -/
theorem Skips.append_blank (h : Skips (b :: outer) s t) (hw : IsBlank w) :
    Skips (b :: outer) s (t ++ w) := by
  obtain ⟨u, hu, hb⟩ := h
  obtain _ | ⟨c, w⟩ := w
  · exact ⟨u, by rwa [List.append_nil], hb⟩
  · have hstay : Leads Reads ⟨.after, b :: outer⟩ w ⟨.after, b :: outer⟩ :=
      .stay fun d hd => Behind.after.reads_space (hw d (by simp [hd]))
    exact ⟨_, hu.append (.cons (hb.reads_space (hw c (by simp))) hstay), .after⟩

/-! ## Words, numbers and texts -/

theorem leads_word {cs : List Char} (hne : cs ≠ []) :
    Leads Reads ⟨.word cs, outer⟩ cs ⟨.after, outer⟩ := by
  induction cs with
  | nil => exact absurd rfl hne
  | cons c cs ih =>
    cases cs with
    | nil => exact .single (by simp [Reads, step, wordStep, bind, Except.bind, pure, Except.pure])
    | cons d cs =>
      refine .cons ?_ (ih (List.cons_ne_nil d cs))
      simp [Reads, step, wordStep, bind, Except.bind, pure, Except.pure]

theorem leads_number {p q : NumberPart} {cs : List Char} (h : Leads NumberPart.Reads p cs q) :
    Leads Reads ⟨.number p, outer⟩ cs ⟨.number q, outer⟩ := by
  refine h.map (fun p => (⟨.number p, outer⟩ : Skipped)) fun {p c q} hc => ?_
  rw [NumberPart.Reads] at hc
  simp only [Reads, step, hc]; rfl

theorem leads_text {cs t : List Char} (h : Letters cs t) :
    Leads Reads ⟨.text .outside, outer⟩ t ⟨.text .outside, outer⟩ := by
  refine (SkippedQuotation.leads_letters h).map (fun q => (⟨.text q, outer⟩ : Skipped))
    fun {p c q} hc => ?_
  rw [SkippedQuotation.Reads] at hc
  simp only [Reads, step, hc]; rfl

theorem leads_keyText {cs t : List Char} (h : Letters cs t) :
    Leads Reads ⟨.keyText .outside, outer⟩ t ⟨.keyText .outside, outer⟩ := by
  refine (SkippedQuotation.leads_letters h).map (fun q => (⟨.keyText q, outer⟩ : Skipped))
    fun {p c q} hc => ?_
  rw [SkippedQuotation.Reads] at hc
  simp only [Reads, step, hc]; rfl

theorem skips_word {word : String} (hword : word ∈ ["null", "true", "false"])
    (h : Due outer s) : Skips outer s word.toList := by
  simp only [List.mem_cons, List.not_mem_nil, or_false] at hword
  rcases hword with rfl | rfl | rfl
  · exact ⟨_, .cons (h.reads_begin (by decide) (by decide) rfl) (leads_word (by decide)), .after⟩
  · exact ⟨_, .cons (h.reads_begin (by decide) (by decide) rfl) (leads_word (by decide)), .after⟩
  · exact ⟨_, .cons (h.reads_begin (by decide) (by decide) rfl) (leads_word (by decide)), .after⟩

theorem skips_number (n : NumberText) (h : Due outer s) : Skips outer s n.chars := by
  obtain ⟨c, cs, p, q, hn, hstart, hcs, hq⟩ := NumberPart.leads_chars n
  have hmarks := NumberPart.not_mem_marks_of_start? hstart
  simp only [NumberPart.marks, List.mem_cons, List.not_mem_nil, or_false, not_or] at hmarks
  obtain ⟨hs1, hs2, hs3, hs4, hquote, hopen, hclose, hbrace, -, hn', ht, hf⟩ := hmarks
  have hspace : isSpace c = false := by simp [isSpace, hs1, hs2, hs3, hs4]
  have hword : word? c = none := by unfold word?; split <;> simp_all
  have hbegin : begin c outer = .ok ⟨.number p, outer⟩ := by
    simp [begin, hquote, hopen, hbrace, hword, hstart]
  rw [hn]
  exact ⟨_, .cons (h.reads_begin hspace hclose hbegin) (leads_number hcs), .number hq⟩

theorem skips_text {cs t : List Char} (ht : Letters cs t) (h : Due outer s) :
    Skips outer s (inQuotes t) := by
  have hbegin : begin '\"' outer = .ok ⟨.text .outside, outer⟩ := rfl
  exact ⟨_, .cons (h.reads_begin (by decide) (by decide) hbegin) ((leads_text ht).snoc rfl), .after⟩

/-! ## Lists and objects -/

theorem Due.reads_list (h : Due outer s) : s.Reads '[' ⟨.opened .list, outer⟩ :=
  h.reads_begin (by decide) (by decide) rfl

theorem Due.reads_object (h : Due outer s) : s.Reads '\x7b' ⟨.opened .object, outer⟩ :=
  h.reads_begin (by decide) (by decide) rfl

theorem leads_colon (hw : IsBlank w) : Leads Reads ⟨.colon, outer⟩ w ⟨.colon, outer⟩ :=
  .stay fun c hc => by simp [Reads, step, hw c hc, pure, Except.pure]

theorem leads_key {k : String} {q : List Char} (hk : Letters k.toList q) (h : KeyDue outer s) :
    Leads Reads s (inQuotes q) ⟨.colon, .object :: outer⟩ :=
  .cons h.reads_quote ((leads_keyText hk).snoc rfl)

mutual

/-- **A value is passed over, within any brackets.** -/
theorem skips_written : ∀ {v : Value} {t : List Char}, Written v t → ∀ {outer : List Bracket}
    {s : Skipped}, Due outer s → Skips outer s t
  | _, _, .null, _, _, hs => skips_word (by decide) hs
  | _, _, .boolean b, _, _, hs => skips_word (by cases b <;> decide) hs
  | _, _, .number n, _, _, hs => skips_number n hs
  | _, _, .text ht, _, _, hs => skips_text ht hs
  | _, _, .emptyList hw, outer, _, hs =>
    ⟨_, .cons hs.reads_list (((Due.opened outer).leads_blank hw).snoc rfl), .after⟩
  | _, _, .list ht, outer, _, hs => by
    obtain ⟨u, hu, hb⟩ := skips_elements ht (.opened outer)
    exact ⟨_, .cons hs.reads_list (hu.snoc hb.reads_closing), .after⟩
  | _, _, .emptyObject hw, outer, _, hs =>
    ⟨_, .cons hs.reads_object (((KeyDue.opened outer).leads_blank hw).snoc rfl), .after⟩
  | _, _, .object ht, outer, _, hs => by
    obtain ⟨u, hu, hb⟩ := skips_members ht (.opened outer)
    exact ⟨_, .cons hs.reads_object (hu.snoc hb.reads_closing), .after⟩

theorem skips_element : ∀ {v : Value} {t : List Char}, Element v t → ∀ {b : Bracket}
    {outer : List Bracket} {s : Skipped}, Due (b :: outer) s → Skips (b :: outer) s t
  | _, _, .mk hw h hw', _, _, _, hs => by
    obtain ⟨u, hu, hb⟩ := skips_written h hs
    exact Skips.append_blank ⟨u, (hs.leads_blank hw).append hu, hb⟩ hw'

theorem skips_elements : ∀ {vs : List Value} {t : List Char}, Elements vs t →
    ∀ {outer : List Bracket} {s : Skipped}, Due (.list :: outer) s → Skips (.list :: outer) s t
  | _, _, .last h, _, _, hs => skips_element h hs
  | _, _, .more h hts, outer, _, hs => by
    obtain ⟨u, hu, hb⟩ := skips_element h hs
    obtain ⟨u', hu', hb'⟩ := skips_elements hts (.value (.list :: outer))
    exact ⟨u', hu.append (.cons hb.reads_comma_list hu'), hb'⟩

theorem skips_member : ∀ {m : String × Value} {t : List Char}, Member m t →
    ∀ {outer : List Bracket} {s : Skipped}, KeyDue outer s → Skips (.object :: outer) s t
  | _, _, .mk hw hk hw' h, outer, _, hs => by
    obtain ⟨u, hu, hb⟩ := skips_element h (.value (.object :: outer))
    have hkey := ((hs.leads_blank hw).append (leads_key hk hs)).append (leads_colon hw')
    exact ⟨u, hkey.append (.cons rfl hu), hb⟩

theorem skips_members : ∀ {ms : List (String × Value)} {t : List Char}, Members ms t →
    ∀ {outer : List Bracket} {s : Skipped}, KeyDue outer s → Skips (.object :: outer) s t
  | _, _, .last h, _, _, hs => skips_member h hs
  | _, _, .more h hts, outer, _, hs => by
    obtain ⟨u, hu, hb⟩ := skips_member h hs
    obtain ⟨u', hu', hb'⟩ := skips_members hts (.key outer)
    exact ⟨u', hu.append (.cons hb.reads_comma_object hu'), hb'⟩

end

end Skipped

end AddressGate.Document
