/-
  Comma-separated lists, and the entries that they are read as.

  * `IsEntry e`: the entry is not empty, has no comma, and is not blank at either
    end; `Padded ps es`: the pieces between commas are the entries in order, with
    blanks around them and blank pieces between them;
  * `splitEntries_of_padded` and `exists_padded`: reading undoes padding, and
    every text is padding around the entries that are read;
  * `splitEntries_normal`: reading brings a list to a normal form.
-/
import AddressGate.Proofs.Pieces
import AddressGate.Proofs.Trim
import AddressGate.Rules.Loading

namespace AddressGate

/-! ## Entries between commas -/

/-- A text that is an entry as it stands. -/
structure IsEntry (e : String) : Prop where
  ne_empty : e ≠ ""
  comma_not_mem : ',' ∉ e.toList
  head : ∀ c ∈ e.toList.head?, Text.isBlank c = false
  last : ∀ c ∈ e.toList.getLast?, Text.isBlank c = false

/-- The pieces are the entries in order, each with blanks around it, and blank
    pieces before, between and behind them. -/
inductive Padded : List String → List String → Prop
  | nil : Padded [] []
  | blank {p : String} {ps es : List String} (hp : ∀ c ∈ p.toList, Text.isBlank c = true)
      (h : Padded ps es) : Padded (p :: ps) es
  | entry {l e r : String} {ps es : List String} (he : IsEntry e)
      (hl : ∀ c ∈ l.toList, Text.isBlank c = true) (hr : ∀ c ∈ r.toList, Text.isBlank c = true)
      (h : Padded ps es) : Padded ((l ++ e ++ r) :: ps) (e :: es)

section
variable {ps es : List String} {s : String}

theorem Padded.refl (h : ∀ e ∈ es, IsEntry e) : Padded es es := by
  induction es with
  | nil => exact .nil
  | cons e es ih =>
    have hpad := Padded.entry (l := "") (r := "") (h e List.mem_cons_self) (by simp) (by simp)
      (ih fun f hf => h f (List.mem_cons_of_mem e hf))
    simpa using hpad

theorem Padded.isEntry (h : Padded ps es) : ∀ e ∈ es, IsEntry e := by
  induction h with
  | nil => exact nofun
  | blank _ _ ih => exact ih
  | entry he _ _ _ ih => exact List.forall_mem_cons.2 ⟨he, ih⟩

theorem comma_not_mem_of_isBlank {cs : List Char} (h : ∀ c ∈ cs, Text.isBlank c = true) :
    ',' ∉ cs := fun hc => absurd (h ',' hc) (by decide)

theorem Padded.comma_not_mem (h : Padded ps es) : ∀ p ∈ ps.map String.toList, ',' ∉ p := by
  induction h with
  | nil => exact nofun
  | blank hp _ ih => exact List.forall_mem_cons.2 ⟨comma_not_mem_of_isBlank hp, ih⟩
  | entry he hl hr _ ih =>
    refine List.forall_mem_cons.2 ⟨?_, ih⟩
    have hleft := comma_not_mem_of_isBlank hl
    have hright := comma_not_mem_of_isBlank hr
    simp [hleft, he.comma_not_mem, hright]

/-- Padded pieces leave their entries when they are trimmed. -/
theorem Padded.trimmed (h : Padded ps es) :
    (((ps.map String.toList).map Text.trim).filter (· ≠ [])).map String.ofList = es := by
  induction h with
  | nil => rfl
  | blank hp _ ih =>
    rw [List.map_cons, List.map_cons, Text.trim_eq_nil_iff.2 hp, List.filter_cons_of_neg (by simp),
      ih]
  | @entry l e r _ _ he hl hr _ ih =>
    have hne : e.toList ≠ [] := by simpa using he.ne_empty
    have htrim : Text.trim (l ++ e ++ r).toList = e.toList := by
      rw [String.toList_append, String.toList_append]
      exact Text.trim_padded hl hr hne he.head he.last
    rw [List.map_cons, List.map_cons, htrim, List.filter_cons_of_pos (by simpa using hne),
      List.map_cons, ih, String.ofList_toList]

/-- The pieces of a list are joined by commas. -/
theorem splitOn_intercalate (hne : ps ≠ []) (h : ∀ p ∈ ps.map String.toList, ',' ∉ p) :
    (",".intercalate ps).toList.splitOn ',' = ps.map String.toList := by
  have hjoined : (",".intercalate ps).toList = [','].intercalate (ps.map String.toList) :=
    String.toList_intercalate
  rw [hjoined, List.splitOn_intercalate ',' h (by simpa using hne)]

/-- **Reading undoes padding.** -/
theorem splitEntries_of_padded (h : Padded ps es) : splitEntries (",".intercalate ps) = es := by
  by_cases hne : ps = []
  · subst hne
    cases h
    rfl
  · rw [splitEntries, splitOn_intercalate hne h.comma_not_mem, h.trimmed]

/-- A row of pieces without commas is padding around what trimming leaves. -/
theorem padded_trimmed {qs : List (List Char)} (h : ∀ q ∈ qs, ',' ∉ q) :
    Padded (qs.map String.ofList) (((qs.map Text.trim).filter (· ≠ [])).map String.ofList) := by
  induction qs with
  | nil => exact .nil
  | cons q qs ih =>
    obtain ⟨hq, hqs⟩ := List.forall_mem_cons.1 h
    rw [List.map_cons, List.map_cons]
    by_cases hnil : Text.trim q = []
    · rw [hnil, List.filter_cons_of_neg (by simp)]
      exact .blank (by simpa using Text.trim_eq_nil_iff.1 hnil) (ih hqs)
    · rw [List.filter_cons_of_pos (by simpa using hnil), List.map_cons]
      obtain ⟨l, r, hl, hr, hpad⟩ := Text.exists_padding q
      have hentry : IsEntry (String.ofList (Text.trim q)) := by
        refine ⟨by simpa using hnil, ?_, ?_, ?_⟩
        · rw [String.toList_ofList]
          intro hc
          rw [hpad] at hq
          exact hq (by simp [hc])
        · simpa using Text.isBlank_head?_trim q
        · simpa using Text.isBlank_getLast?_trim q
      have hall := Padded.entry (l := String.ofList l) (r := String.ofList r) hentry
        (by simpa using hl) (by simpa using hr) (ih hqs)
      rw [← String.ofList_append, ← String.ofList_append, ← hpad] at hall
      exact hall

/-- **Every text is padding around its entries.** -/
theorem exists_padded (s : String) : ∃ ps, Padded ps (splitEntries s) ∧ ",".intercalate ps = s := by
  refine ⟨_, padded_trimmed fun _ => Text.not_mem_of_mem_splitOn, ?_⟩
  rw [← String.toList_inj, String.toList_intercalate, List.map_map]
  have hid : String.toList ∘ String.ofList = id := funext fun cs => String.toList_ofList
  rw [hid, List.map_id]
  exact List.intercalate_splitOn ','

theorem splitEntries_append (s t : String) :
    splitEntries (s ++ "," ++ t) = splitEntries s ++ splitEntries t := by
  have hcut : (s ++ "," ++ t).toList = s.toList ++ ',' :: t.toList := by simp
  simp only [splitEntries, hcut, List.splitOn_append_cons_self,
    List.map_append, List.filter_append]

theorem splitEntries_intercalate (s : String) :
    splitEntries (",".intercalate (splitEntries s)) = splitEntries s := by
  obtain ⟨ps, hps, -⟩ := exists_padded s
  exact splitEntries_of_padded (Padded.refl hps.isEntry)

end

/-- **Reading a comma-separated list brings it to a normal form.**  Its entries
    are not empty, have no comma and are not blank at either end.  Entries of
    that kind are read back in order from any list in which they are padded, and
    every list is of that form.  A list that is two lists with a comma between
    them has the entries of both.  So the entries of a list, joined by commas,
    are read as themselves, and rules that are written so are loaded as they
    were, with the same warnings. -/
theorem splitEntries_normal (s t : String) :
    (∀ e ∈ splitEntries s, IsEntry e) ∧
    (∀ ps es, Padded ps es → splitEntries (",".intercalate ps) = es) ∧
    (∃ ps, Padded ps (splitEntries s) ∧ ",".intercalate ps = s) ∧
    splitEntries (s ++ "," ++ t) = splitEntries s ++ splitEntries t ∧
    splitEntries (",".intercalate (splitEntries s)) = splitEntries s ∧
    Rules.load (",".intercalate (Rules.load s t).result.blacklist)
      (",".intercalate (Rules.load s t).result.whitelist) = Rules.load s t := by
  obtain ⟨ps, hps, hs⟩ := exists_padded s
  refine ⟨hps.isEntry, fun _ _ h => splitEntries_of_padded h, ⟨ps, hps, hs⟩,
    splitEntries_append s t, splitEntries_intercalate s, ?_⟩
  show (Rules.ofLists (",".intercalate (splitEntries s)) _).withWarnings = _
  rw [Rules.ofLists, splitEntries_intercalate]
  show (Rules.mk _ (splitEntries (",".intercalate (splitEntries t)))).withWarnings = _
  rw [splitEntries_intercalate]
  rfl

/-- Blanks inside an entry stay. -/
example : splitEntries " 10.0.0.1\u2003,,\t, my host ," = ["10.0.0.1", "my host"] := by
  decide +kernel

end AddressGate
