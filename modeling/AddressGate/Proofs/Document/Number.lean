/-
  Numbers are read to their end.

  `NumberPart.leads_chars`: the first character of a number begins it, the others
  are read as parts of it, and then no digit is due; `step_of_endsValue` says
  that the characters that may follow a value end the number.
-/
import AddressGate.Proofs.Document.Grammar
import AddressGate.Proofs.Document.Path
import AddressGate.Proofs.Number

namespace AddressGate.Document

/-- The character may follow a value. -/
def EndsValue (c : Char) : Prop := isSpace c = true ∨ c = ',' ∨ c = ']' ∨ c = '\x7d'

/-- The characters that may follow a value. -/
def closers : List Char := [' ', '\n', '\t', '\r', ',', ']', '\x7d']

theorem mem_closers_iff {c : Char} : c ∈ closers ↔ EndsValue c := by
  simp [EndsValue, closers, isSpace, or_assoc]

/-- What holds of each of them. -/
theorem EndsValue.of_all {c : Char} {P : Char → Prop} [DecidablePred P] (hc : EndsValue c)
    (h : closers.all (P ·)) : P c :=
  of_decide_eq_true (List.all_eq_true.1 h c (mem_closers_iff.2 hc))

namespace NumberPart

variable {p q : NumberPart} {c : Char} {cs ds : List Char}

/-! ## Digits -/

theorem reads_digit (hq : ∀ isZero, p.digit? isZero = some q) (hc : c.isDigit = true) :
    p.Reads c q := by
  have hd := Text.digitValue?_ten_eq_some_iff.2 ⟨hc, rfl⟩
  simp only [Reads, step, hd, hq]

theorem leads_digits (hp : ∀ isZero, p.digit? isZero = some q)
    (hq : ∀ isZero, q.digit? isZero = some q) (h : Text.IsDigits ds) : Leads Reads p ds q := by
  obtain ⟨hne, hds⟩ := h
  obtain _ | ⟨c, ds⟩ := ds
  · exact absurd rfl hne
  · exact .cons (reads_digit hp (hds c (by simp)))
      (.stay fun d hd => reads_digit hq (hds d (by simp [hd])))

theorem exists_digitValue? (hc : c.isDigit = true) :
    ∃ d, Text.digitValue? 10 c = some d ∧ (d = 0 ↔ c = '0') := by
  refine ⟨_, Text.digitValue?_ten_eq_some_iff.2 ⟨hc, rfl⟩, ?_⟩
  have h0 : '0'.toNat ≤ c.toNat := UInt32.le_iff_toNat_le.1 (Text.isDigit_iff_le.1 hc).1
  rw [Nat.sub_eq_zero_iff_le, ← Char.toNat_inj]
  omega

/-! ## Parts of a number -/

/-- The part is a place where a whole number may end. -/
def IsInteger (p : NumberPart) : Prop := p = zero ∨ p = whole

theorem exists_cons_of_isWhole (h : IsWhole cs) :
    ∃ c ds, cs = c :: ds ∧ c.isDigit = true ∧ (∀ d ∈ ds, d.isDigit = true) ∧
      (c = '0' → ds = []) := by
  rcases h with rfl | ⟨⟨hne, hcs⟩, h0⟩
  · exact ⟨'0', [], rfl, rfl, by simp, fun _ => rfl⟩
  · obtain ⟨c, ds, rfl⟩ := List.exists_cons_of_ne_nil hne
    refine ⟨c, ds, rfl, hcs c (by simp), fun d hd => hcs d (by simp [hd]), fun hc => ?_⟩
    exact absurd (congrArg some hc) h0

/-- The first digit begins a number, and is also read behind a sign. -/
theorem leads_whole (h : IsWhole cs) :
    ∃ c ds p, cs = c :: ds ∧ start? c = some p ∧ minus.Reads c p ∧ Leads Reads p ds p ∧
      p.IsInteger := by
  obtain ⟨c, ds, rfl, hc, hds, h0⟩ := exists_cons_of_isWhole h
  obtain ⟨d, hd, hd0⟩ := exists_digitValue? hc
  have hm : c ≠ '-' := by rintro rfl; exact absurd hc (by decide)
  by_cases hz : c = '0'
  · refine ⟨c, ds, zero, rfl, ?_, ?_, ?_, .inl rfl⟩
    · rw [start?, if_neg hm, if_pos hz]
    · simp [Reads, step, hd, hd0.2 hz, digit?]
    · rw [h0 hz]
      exact .nil zero
  · refine ⟨c, ds, whole, rfl, ?_, ?_, ?_, .inr rfl⟩
    · rw [start?, if_neg hm, if_neg hz, hd]; rfl
    · simp [Reads, step, hd, mt hd0.1 hz, digit?]
    · exact .stay fun e he => reads_digit (fun _ => rfl) (hds e he)

theorem leads_fraction (hp : p.IsInteger) (h : IsFraction cs) :
    ∃ q, Leads Reads p cs q ∧ (q.IsInteger ∨ q = fraction) := by
  rcases h with rfl | ⟨ds, hds, rfl⟩
  · exact ⟨p, .nil p, .inl hp⟩
  · have hpoint : p.Reads '.' point := by rcases hp with rfl | rfl <;> rfl
    exact ⟨fraction, .cons hpoint (leads_digits (fun _ => rfl) (fun _ => rfl) hds), .inr rfl⟩

theorem leads_power (hp : p.IsInteger ∨ p = fraction) (h : IsPower cs) :
    ∃ q, Leads Reads p cs q ∧ q.needsDigit = false := by
  rcases h with rfl | ⟨e, he, sign, hs, ds, hds, rfl⟩
  · refine ⟨p, .nil p, ?_⟩
    rcases hp with (rfl | rfl) | rfl <;> rfl
  · have hmark : p.Reads e mark := by
      simp only [List.mem_cons, List.not_mem_nil, or_false] at he
      rcases he with rfl | rfl <;> rcases hp with (rfl | rfl) | rfl <;> rfl
    have hdigits : ∀ r, r = mark ∨ r = markSign → Leads Reads r ds power := by
      rintro r (rfl | rfl) <;> exact leads_digits (fun _ => rfl) (fun _ => rfl) hds
    refine ⟨power, .cons hmark ?_, rfl⟩
    simp only [List.mem_cons, List.not_mem_nil, or_false] at hs
    rcases hs with rfl | rfl | rfl
    · exact hdigits mark (.inl rfl)
    · exact .cons (t := markSign) rfl (hdigits markSign (.inr rfl))
    · exact .cons (t := markSign) rfl (hdigits markSign (.inr rfl))

/-- **A number is read to its end.** -/
theorem leads_chars (n : NumberText) :
    ∃ c cs p q, n.chars = c :: cs ∧ start? c = some p ∧ Leads Reads p cs q ∧
      q.needsDigit = false := by
  obtain ⟨c, ds, p, hw, hstart, hminus, hds, hp⟩ := leads_whole n.isWhole
  obtain ⟨q, hfraction, hq⟩ := leads_fraction hp n.isFraction
  obtain ⟨r, hpower, hr⟩ := leads_power hq n.isPower
  have htail := (hds.append hfraction).append hpower
  have hs := n.isSign
  simp only [List.mem_cons, List.not_mem_nil, or_false] at hs
  rcases hs with hs | hs
  · exact ⟨c, _, p, r, by rw [NumberText.chars, hs, hw]; rfl, hstart, htail, hr⟩
  · exact ⟨'-', _, minus, r, by rw [NumberText.chars, hs, hw]; rfl, rfl, .cons hminus htail, hr⟩

/-! ## What stands around a number -/

/-- The characters that begin other values, or stand between values. -/
def marks : List Char :=
  [' ', '\n', '\t', '\r', '\"', '[', ']', '\x7b', '\x7d', 'n', 't', 'f']

theorem not_mem_marks_of_start? (h : start? c = some p) : c ∉ marks := by
  have hall : marks.all (start? · = none) := by decide
  intro hc
  rw [of_decide_eq_true (List.all_eq_true.1 hall c hc)] at h
  cases h

theorem step_of_endsValue (hc : EndsValue c) (hp : p.needsDigit = false) : p.step c = .ok none := by
  have hd := hc.of_all (P := (Text.digitValue? 10 · = none)) (by decide)
  have ho := hc.of_all (P := fun c => ∀ q ∈ [zero, whole, fraction, power], q.other? c = none)
    (by decide)
  have hq : p ∈ [zero, whole, fraction, power] := by cases p <;> simp_all [needsDigit]
  simp only [step, hd, ho p hq, hp]; rfl

end NumberPart

end AddressGate.Document
