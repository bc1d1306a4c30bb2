/-
  Text cut at a separator, and joined again.

  A text is cut by `List.splitOn` and joined by `List.intercalate`.  The library
  says that these undo each other; here is which pieces there can be
  (`not_mem_of_mem_splitOn`, `splitOn_eq_pair_iff`) and of which characters a
  joined text is made (`mem_intercalate`).
-/

namespace AddressGate.Text

variable {sep c : Char} {cs p q : List Char} {ps : List (List Char)}

/-- No piece holds the separator. -/
theorem not_mem_of_mem_splitOn (h : p ∈ cs.splitOn sep) : sep ∉ p := by
  induction cs generalizing p with
  | nil =>
    obtain rfl := List.mem_singleton.1 h
    exact List.not_mem_nil
  | cons c cs ih =>
    rw [List.splitOn_cons_eq_if_modifyHead] at h
    split at h
    · rcases List.mem_cons.1 h with rfl | h
      · exact List.not_mem_nil
      · exact ih h
    · next hc =>
      obtain ⟨q, ps, hq⟩ := List.exists_cons_of_ne_nil (List.splitOn_ne_nil sep cs)
      rw [hq] at h ih
      rcases List.mem_cons.1 h with rfl | h
      · have hne : sep ≠ c := fun he => hc (beq_iff_eq.2 he.symm)
        simpa [hne] using ih List.mem_cons_self
      · exact ih (List.mem_cons_of_mem q h)

theorem splitOn_eq_pair_iff :
    cs.splitOn sep = [p, q] ↔ sep ∉ p ∧ sep ∉ q ∧ cs = p ++ sep :: q := by
  constructor
  · intro h
    have hcs : [sep].intercalate (cs.splitOn sep) = cs := List.intercalate_splitOn sep
    rw [h] at hcs
    exact ⟨not_mem_of_mem_splitOn (h ▸ List.mem_cons_self),
      not_mem_of_mem_splitOn (h ▸ List.mem_cons_of_mem p List.mem_cons_self), by simp [← hcs]⟩
  · rintro ⟨hp, hq, rfl⟩
    rw [List.splitOn_append_cons_self_of_not_mem hp, List.splitOn_eq_singleton hq]

theorem mem_intercalate (h : c ∈ [sep].intercalate ps) : c = sep ∨ ∃ p ∈ ps, c ∈ p := by
  induction ps with
  | nil => exact absurd h List.not_mem_nil
  | cons p ps ih =>
    by_cases hps : ps = []
    · subst hps
      exact Or.inr ⟨p, List.mem_cons_self, by simpa using h⟩
    · rw [List.intercalate_cons_of_ne_nil hps, List.mem_append, List.mem_append,
        List.mem_singleton] at h
      rcases h with (h | h) | h
      · exact Or.inr ⟨p, List.mem_cons_self, h⟩
      · exact Or.inl h
      · rcases ih h with h | ⟨q, hq, h⟩
        · exact Or.inl h
        · exact Or.inr ⟨q, List.mem_cons_of_mem p hq, h⟩

end AddressGate.Text
