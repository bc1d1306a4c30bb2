/-
  Trimming a text.

  * `trim_eq_nil_iff`: nothing is left exactly of an entirely blank text;
    `head?_trim`: else the first character that is not blank stays first;
  * `trim_padded` and `exists_padding`: trimming drops what is blank around a
    text, and nothing else.
-/
import Mathlib.Data.List.TakeWhile
import AddressGate.Text.Blank

namespace AddressGate.Text

variable {l x r cs : List Char}

/-! ## What is left -/

theorem trimEnd_eq_nil_iff : trimEnd cs = [] ↔ ∀ c ∈ cs, isBlank c = true := by
  rw [trimEnd, List.reverse_eq_nil_iff, List.dropWhile_eq_nil_iff]
  simp

/-- **Nothing is left exactly of an entirely blank text.** -/
theorem trim_eq_nil_iff : trim cs = [] ↔ ∀ c ∈ cs, isBlank c = true := by
  rw [trim, trimEnd_eq_nil_iff]
  constructor
  · intro h c hc
    rw [← List.takeWhile_append_dropWhile (p := isBlank) (l := cs), List.mem_append] at hc
    exact hc.elim List.mem_takeWhile_imp (h c)
  · intro h c hc
    exact h c ((List.dropWhile_suffix isBlank).subset hc)

/-- What is left begins with the first character that is not blank. -/
theorem head?_trim (cs : List Char) : (trim cs).head? = cs.find? fun c => !isBlank c := by
  induction cs with
  | nil => rfl
  | cons c cs ih =>
    rw [trim, List.dropWhile_cons, List.find?_cons]
    cases hc : isBlank c with
    | true => exact ih
    | false =>
      simp only [trimEnd, List.reverse_cons, List.dropWhile_append, Bool.false_eq_true, if_false]
      split
      · simp [hc]
      · simp

/-! ## What is dropped -/

theorem dropWhile_isBlank_append (hne : x ≠ []) (hx : ∀ c ∈ x.head?, isBlank c = false)
    (r : List Char) : (x ++ r).dropWhile isBlank = x ++ r := by
  obtain ⟨c, cs, rfl⟩ := List.exists_cons_of_ne_nil hne
  rw [List.cons_append, List.dropWhile_cons_of_neg]
  rw [hx c rfl]
  exact Bool.false_ne_true

/-- **Trimming drops the blanks around a text** that is not blank at its ends. -/
theorem trim_padded (hl : ∀ c ∈ l, isBlank c = true) (hr : ∀ c ∈ r, isBlank c = true)
    (hne : x ≠ []) (hhead : ∀ c ∈ x.head?, isBlank c = false)
    (hlast : ∀ c ∈ x.getLast?, isBlank c = false) : trim (l ++ x ++ r) = x := by
  have hfront : (l ++ x ++ r).dropWhile isBlank = x ++ r := by
    rw [List.append_assoc, List.dropWhile_append_of_pos hl, dropWhile_isBlank_append hne hhead]
  have hback : (r.reverse ++ x.reverse).dropWhile isBlank = x.reverse := by
    rw [List.dropWhile_append_of_pos fun c hc => hr c (List.mem_reverse.1 hc)]
    rw [← List.append_nil x.reverse, dropWhile_isBlank_append (by simpa using hne)]
    simpa using hlast
  rw [trim, hfront, trimEnd, List.reverse_append, hback, List.reverse_reverse]

/-- **Trimming drops nothing else.** -/
theorem exists_padding (cs : List Char) : ∃ l r, (∀ c ∈ l, isBlank c = true) ∧
    (∀ c ∈ r, isBlank c = true) ∧ cs = l ++ trim cs ++ r := by
  have hback : ∀ ds : List Char, trimEnd ds ++ (ds.reverse.takeWhile isBlank).reverse = ds := by
    intro ds
    rw [trimEnd, ← List.reverse_append, List.takeWhile_append_dropWhile, List.reverse_reverse]
  refine ⟨cs.takeWhile isBlank, ((cs.dropWhile isBlank).reverse.takeWhile isBlank).reverse,
    fun c => List.mem_takeWhile_imp, fun c hc => List.mem_takeWhile_imp (List.mem_reverse.1 hc), ?_⟩
  rw [trim, List.append_assoc, hback, List.takeWhile_append_dropWhile]

theorem isBlank_head?_trim (cs : List Char) : ∀ c ∈ (trim cs).head?, isBlank c = false := by
  intro c hc
  rw [head?_trim] at hc
  simpa using List.find?_some hc

theorem isBlank_getLast?_trim (cs : List Char) :
    ∀ c ∈ (trim cs).getLast?, isBlank c = false := by
  intro c hc
  rw [trim, trimEnd, List.getLast?_reverse] at hc
  have hhead := List.head?_dropWhile_not isBlank (cs.dropWhile isBlank).reverse
  rw [Option.mem_def.1 hc] at hhead
  exact hhead

end AddressGate.Text
