/-
  However a text is written, the reader finds its characters.

  * `completes_of_isUnit`: four hex digits complete a unit;
  * `Quotation.leads_letters`: a text that matters is read character by
    character, whichever way each of them is written;
  * `SkippedQuotation.leads_letters`: an ignored text is passed over.
-/
import AddressGate.Proofs.Document.Grammar
import AddressGate.Proofs.Document.Path

namespace AddressGate.Document

/-! ## Units -/

namespace UnitDigits

/-- The characters are what is left of the digits of a unit. -/
inductive Completes : UnitDigits → List Char → Nat → Prop
  | last {u : UnitDigits} {c : Char} {n : Nat} (h : u.step c = .unit n) : Completes u [c] n
  | more {u u' : UnitDigits} {c : Char} {cs : List Char} {n : Nat} (h : u.step c = .more u')
      (hs : Completes u' cs n) : Completes u (c :: cs) n

theorem utf8Size_of_hexValue? {c : Char} {d : Nat} (h : Text.hexValue? c = some d) :
    c.utf8Size = 1 := by
  rw [Char.utf8Size_eq_one_iff]
  unfold Text.hexValue? at h
  split_ifs at h with h0 ha hA
  · exact UInt32.le_trans h0.2 (by decide)
  · exact UInt32.le_trans ha.2 (by decide)
  · exact UInt32.le_trans hA.2 (by decide)

theorem completes_of_numberFrom? {ds : List Char} {k v n : Nat} (hne : ds ≠ [])
    (hk : k + ds.length = 4) (h : Text.numberFrom? 16 v ds = some n) :
    Completes ⟨k, some v⟩ ds n := by
  induction ds generalizing k v with
  | nil => exact absurd rfl hne
  | cons c ds ih =>
    obtain ⟨d, hd, hn⟩ := Option.bind_eq_some_iff.1 h
    have hx : Text.hexValue? c = some d := (Option.filter_eq_some_iff.1 hd).1
    simp only [List.length_cons] at hk
    by_cases hds : ds = []
    · subst hds
      obtain rfl := Option.some.inj hn
      refine .last ?_
      simp only [List.length_nil] at hk
      simp [step, utf8Size_of_hexValue? hx, hx, show ¬ k + 1 < 4 by omega]
    · have hpos : 0 < ds.length := List.length_pos_iff.2 hds
      refine .more ?_ (ih (k := k + 1) hds (by omega) hn)
      simp [step, utf8Size_of_hexValue? hx, hx, show k + 1 < 4 by omega]

theorem completes_of_isUnit {ds : List Char} {n : Nat} (h : IsUnit ds n) :
    Completes start ds n := by
  obtain ⟨hl, hn⟩ := h
  obtain _ | ⟨c, ds⟩ := ds
  · cases hl
  · exact completes_of_numberFrom? (List.cons_ne_nil c ds) (by omega) hn

end UnitDigits

/-! ## Letters behind a backslash -/

theorem escaped?_of_mem_letters {c d : Char} (h : (d, c) ∈ letters) : escaped? d = some c := by
  have hall : ∀ p ∈ letters, escaped? p.1 = some p.2 := by decide
  exact hall _ h

theorem ne_u_of_mem_letters {c d : Char} (h : (d, c) ∈ letters) : d ≠ 'u' := by
  rintro rfl
  exact absurd (escaped?_of_mem_letters h) (by simp [escaped?])

/-! ## Characters are no surrogates -/

theorem not_surrogate (c : Char) : isTrailing c.toNat = false ∧ isLeading c.toNat = false := by
  have hv : c.toNat < 0xD800 ∨ 0xDFFF < c.toNat ∧ c.toNat < 0x110000 := c.valid
  simp only [isTrailing, isLeading, Bool.and_eq_false_iff, decide_eq_false_iff_not]
  omega

theorem surrogatePair_eq {c : Char} {hi lo : Nat} (hc : c.toNat = 0x10000 + 0x400 * hi + lo) :
    surrogatePair (0xD800 + hi) (0xDC00 + lo) = c := by
  rw [surrogatePair, show 0x10000 + (0xD800 + hi - 0xD800) * 0x400 + (0xDC00 + lo - 0xDC00) =
    c.toNat by omega, Char.ofNat_toNat]

/-! ## Texts that matter -/

namespace Quotation

variable {c : Char} {cs t ds : List Char}

theorem reads_backslash (rev : List Char) : Reads ⟨.outside, rev⟩ '\\' ⟨.backslash, rev⟩ := by
  simp [Reads, step, within]

theorem leads_pair (leading : Nat) (rev : List Char) :
    Leads Reads ⟨.pair leading, rev⟩ ['\\', 'u'] ⟨.unit (some leading) .start, rev⟩ :=
  .cons (t := ⟨.pairBackslash leading, rev⟩) (by simp [Reads, step, within])
    (.single (by simp [Reads, step, within]))

theorem leads_completes {u : UnitDigits} {n : Nat} (h : u.Completes ds n) {leading? : Option Nat}
    {rev : List Char} {q : Quotation} (hq : unit ⟨.outside, rev⟩ leading? n = .ok q) :
    Leads Reads ⟨.unit leading? u, rev⟩ ds q := by
  induction h with
  | @last u c n h =>
    refine .single ?_
    have hu : (⟨.unit leading? u, rev⟩ : Quotation).unit leading? n = .ok q := hq
    simp only [Reads, step, h, hu]; rfl
  | @more u u' c cs n h _ ih =>
    refine .cons ?_ (ih hq)
    simp only [Reads, step, h]; rfl

/-- The escape of a unit that no surrogate stands before. -/
theorem leads_unit {n : Nat} (h : IsUnit ds n) {rev : List Char} {q : Quotation}
    (hq : unit ⟨.outside, rev⟩ none n = .ok q) :
    Leads Reads ⟨.outside, rev⟩ ('\\' :: 'u' :: ds) q :=
  .cons (reads_backslash rev) (.cons (t := ⟨.unit none .start, rev⟩) (by simp [Reads, step, within])
    (leads_completes (UnitDigits.completes_of_isUnit h) hq))

/-- Whichever way a character is written, it is read as that character. -/
theorem leads_spelled (h : Spelled c t) (rev : List Char) :
    Leads Reads ⟨.outside, rev⟩ t ⟨.outside, c :: rev⟩ := by
  cases h with
  | raw hq hb hc =>
    refine .single ?_
    have hcontrol : isControl c = false := by simpa [isControl] using hc
    simp [Reads, step, hq, hb, hcontrol, push]
  | letter h =>
    refine .cons (reads_backslash rev) (.single ?_)
    simp [Reads, step, ne_u_of_mem_letters h, escaped?_of_mem_letters h, push]
  | unit h =>
    obtain ⟨htrail, hlead⟩ := not_surrogate c
    exact leads_unit h (by simp [unit, htrail, hlead, push])
  | @pair ds es hi lo hds hes hhi hlo hc =>
    have hlead : isLeading (0xD800 + hi) = true := by simp [isLeading]; omega
    have hnot : isTrailing (0xD800 + hi) = false := by simp [isTrailing]; omega
    have htrail : isTrailing (0xDC00 + lo) = true := by simp [isTrailing]; omega
    have hfirst : Leads Reads ⟨.outside, rev⟩ ('\\' :: 'u' :: ds) ⟨.pair (0xD800 + hi), rev⟩ :=
      leads_unit hds (by simp [unit, hlead, hnot, within])
    have hsecond : Leads Reads ⟨.unit (some (0xD800 + hi)) .start, rev⟩ es ⟨.outside, c :: rev⟩ :=
      leads_completes (UnitDigits.completes_of_isUnit hes)
        (by simp [unit, htrail, surrogatePair_eq hc, push])
    exact hfirst.append ((leads_pair _ rev).append hsecond)

/-- **A text is read as its characters.** -/
theorem leads_letters (h : Letters cs t) (rev : List Char) :
    Leads Reads ⟨.outside, rev⟩ t ⟨.outside, cs.reverse ++ rev⟩ := by
  induction h generalizing rev with
  | nil => exact .nil _
  | @cons c cs t ts hc _ ih =>
    have hs := (leads_spelled hc rev).append (ih (c :: rev))
    rwa [List.reverse_cons, List.append_assoc, List.singleton_append]

end Quotation

/-! ## Texts that are ignored -/

namespace SkippedQuotation

variable {c : Char} {cs t ds : List Char}

theorem leads_completes {u : UnitDigits} {n : Nat} (h : u.Completes ds n) :
    Leads Reads (unit u) ds outside := by
  induction h with
  | last h => exact .single (by simp only [Reads, step, h])
  | more h _ ih => exact .cons (by simp only [Reads, step, h]) ih

theorem reads_backslash : Reads outside '\\' backslash := by simp [Reads, step]

theorem leads_unit {n : Nat} (h : IsUnit ds n) : Leads Reads outside ('\\' :: 'u' :: ds) outside :=
  .cons reads_backslash (.cons (t := unit .start) (by simp [Reads, step])
    (leads_completes (UnitDigits.completes_of_isUnit h)))

theorem leads_spelled (h : Spelled c t) : Leads Reads outside t outside := by
  cases h with
  | raw hq hb hc =>
    refine .single ?_
    have hcontrol : isControl c = false := by simpa [isControl] using hc
    simp [Reads, step, hq, hb, hcontrol]
  | letter h =>
    refine .cons reads_backslash (.single ?_)
    simp [Reads, step, ne_u_of_mem_letters h, escaped?_of_mem_letters h]
  | unit h => exact leads_unit h
  | pair hds hes => exact (leads_unit hds).append (leads_unit hes)

/-- **An ignored text is passed over.** -/
theorem leads_letters (h : Letters cs t) : Leads Reads outside t outside := by
  induction h with
  | nil => exact .nil _
  | cons hc _ ih => exact (leads_spelled hc).append ih

end SkippedQuotation

end AddressGate.Document
