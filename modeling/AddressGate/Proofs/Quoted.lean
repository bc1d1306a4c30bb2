/-
  Text in quotes: what it shows, and where it ends.

  * `IsPrintable c`: neither a control character nor a line or paragraph
    separator; `isPrintable_quoted` says that nothing else is shown of a text;
  * `unquotedChar? cs` reads the first character between quotes, whichever way
    it is written, with what stands behind it; `unquotedChar?_quotedChar`: it
    reads what was written for a character;
  * `quoted_append_inj`: a text in quotes, with anything behind it, determines
    the text and what stands behind it.
-/
import AddressGate.Proofs.Number
import AddressGate.Text.Quoted

namespace AddressGate.Text

/-! ## Printable characters -/

/-- Neither a control character nor a line or paragraph separator. -/
def IsPrintable (c : Char) : Prop :=
  ¬ c.toNat < 0x20 ∧ ¬ (0x7F ≤ c.toNat ∧ c.toNat ≤ 0x9F) ∧ c.toNat ≠ 0x2028 ∧ c.toNat ≠ 0x2029

instance : DecidablePred IsPrintable := fun _ => inferInstanceAs (Decidable (_ ∧ _))

theorem isPrintable_of_all {cs : List Char} (h : (cs.all fun c => IsPrintable c) = true) :
    ∀ c ∈ cs, IsPrintable c := by
  simpa only [List.all_eq_true, decide_eq_true_iff] using h

theorem isPrintable_of_not_invisible {c : Char} (h : isInvisible c = false) : IsPrintable c := by
  have hcontrol : ¬ (c.toNat < 0x20 ∨ 0x7F ≤ c.toNat ∧ c.toNat ≤ 0xA0) := fun hc => by
    rw [isInvisible_of_control hc] at h; cases h
  have hseparator : ¬ (c.toNat = 0x2028 ∨ c.toNat = 0x2029) := fun hs => by
    rw [isInvisible_of_separator hs] at h; cases h
  unfold IsPrintable
  omega

theorem isPrintable_of_digitValue? {base : Nat} {c : Char} (h : (digitValue? base c).isSome) :
    IsPrintable c := by
  obtain ⟨d, hd⟩ := Option.isSome_iff_exists.1 h
  have hx := (Option.filter_eq_some_iff.1 hd).1
  have hle : ∀ a b : Char, a ≤ b → a.toNat ≤ b.toNat := fun a b h => UInt32.le_iff_toNat_le.1 h
  have hrange : '0'.toNat ≤ c.toNat ∧ c.toNat ≤ 'f'.toNat := by
    unfold hexValue? at hx
    split_ifs at hx with h0 ha hA
    · exact ⟨hle _ _ h0.1, Nat.le_trans (hle _ _ h0.2) (by decide)⟩
    · exact ⟨Nat.le_trans (by decide) (hle _ _ ha.1), hle _ _ ha.2⟩
    · exact ⟨Nat.le_trans (by decide) (hle _ _ hA.1), Nat.le_trans (hle _ _ hA.2) (by decide)⟩
  have h0 : '0'.toNat = 0x30 := rfl
  have hf : 'f'.toNat = 0x66 := rfl
  unfold IsPrintable
  omega

theorem isPrintable_of_mem_toDigits {base : Nat} (h1 : 1 < base) (h16 : base ≤ 16) (n : Nat) :
    ∀ c ∈ Nat.toDigits base n, IsPrintable c := fun c hc =>
  isPrintable_of_digitValue?
    (isSome_digitValue?_of_numberFrom? (numberFrom?_toDigits h1 h16 n) c hc)

theorem isPrintable_quotedChar (c : Char) : ∀ d ∈ quotedChar c, IsPrintable d := by
  unfold quotedChar
  split
  case h_7 =>
    split
    · intro d hd
      simp only [codePoint, List.mem_append] at hd
      rcases hd with (hd | hd) | hd
      · exact isPrintable_of_all rfl d hd
      · exact isPrintable_of_mem_toDigits (by omega) (by omega) _ d hd
      · exact isPrintable_of_all rfl d hd
    · next hv => simpa using isPrintable_of_not_invisible (eq_false_of_ne_true hv)
  all_goals exact isPrintable_of_all rfl

/-- **Only printable characters are shown of a text.** -/
theorem isPrintable_quoted (cs : List Char) : ∀ d ∈ quoted cs, IsPrintable d := by
  intro d hd
  simp only [quoted, List.cons_append, List.mem_cons, List.mem_append, List.mem_flatMap,
    List.not_mem_nil, or_false] at hd
  rcases hd with rfl | ⟨c, -, hd⟩ | rfl
  · decide
  · exact isPrintable_quotedChar c d hd
  · decide

/-! ## Reading back -/

/-- The characters that have a letter, digit or mark of their own behind the
    backslash. -/
def escapes : List (Char × Char) :=
  [('\"', '\"'), ('\\', '\\'), ('n', '\n'), ('r', '\r'), ('t', '\t'), ('0', '\x00')]

/-- The character that is written behind a backslash, and the text behind it. -/
def escaped? : List Char → Option (Char × List Char)
  | 'u' :: '\x7b' :: cs =>
    (number? 16 (cs.takeWhile (· ≠ '\x7d'))).map fun n =>
      (Char.ofNat n, (cs.dropWhile (· ≠ '\x7d')).tail)
  | e :: cs => (escapes.lookup e).map (·, cs)
  | [] => none

/-- The first character between quotes and the text behind it; at a quote there
    is none. -/
def unquotedChar? : List Char → Option (Char × List Char)
  | [] => none
  | c :: cs => if c = '\"' then none else if c = '\\' then escaped? cs else some (c, cs)

theorem unquotedChar?_codePoint (c : Char) (cs : List Char) :
    unquotedChar? (codePoint c ++ cs) = some (c, cs) := by
  have hclose : ∀ d ∈ Nat.toDigits 16 c.toNat, decide (d ≠ '\x7d') = true := by
    intro d hd
    have hread := numberFrom?_toDigits (by omega : 1 < 16) (by omega) c.toNat
    have hsome := isSome_digitValue?_of_numberFrom? hread d hd
    refine decide_eq_true fun h => ?_
    rw [h] at hsome
    exact absurd hsome (by decide)
  have hcode : codePoint c ++ cs =
      '\\' :: 'u' :: '\x7b' :: (Nat.toDigits 16 c.toNat ++ '\x7d' :: cs) := by
    simp [codePoint]
  rw [hcode, unquotedChar?, if_neg (by decide), if_pos rfl, escaped?,
    List.takeWhile_append_of_pos hclose, List.dropWhile_append_of_pos hclose]
  simp [number?_toDigits, Char.ofNat_toNat]

/-- **What is written for a character is read as that character.** -/
theorem unquotedChar?_quotedChar (c : Char) (cs : List Char) :
    unquotedChar? (quotedChar c ++ cs) = some (c, cs) := by
  unfold quotedChar
  split
  case h_7 hq hb _ _ _ _ =>
    split
    · exact unquotedChar?_codePoint c cs
    · rw [List.singleton_append, unquotedChar?, if_neg hq, if_neg hb]
  all_goals rfl

theorem quotedChar_append_inj {c d : Char} {cs ds : List Char}
    (h : quotedChar c ++ cs = quotedChar d ++ ds) : c = d ∧ cs = ds := by
  have he := unquotedChar?_quotedChar c cs
  rw [h, unquotedChar?_quotedChar] at he
  simpa [eq_comm] using he

/-- The closing quote is no written character. -/
theorem quotedChar_append_ne (c : Char) (cs ds : List Char) : quotedChar c ++ cs ≠ '\"' :: ds := by
  intro h
  have he := unquotedChar?_quotedChar c cs
  rw [h] at he
  cases he

theorem flatMap_quotedChar_inj {as bs cs ds : List Char}
    (h : as.flatMap quotedChar ++ '\"' :: cs = bs.flatMap quotedChar ++ '\"' :: ds) :
    as = bs ∧ cs = ds := by
  induction as generalizing bs with
  | nil =>
    cases bs with
    | nil => simpa using h
    | cons b bs =>
      rw [List.flatMap_cons, List.append_assoc] at h
      exact absurd h.symm (quotedChar_append_ne _ _ _)
  | cons a as ih =>
    cases bs with
    | nil =>
      rw [List.flatMap_cons, List.append_assoc] at h
      exact absurd h (quotedChar_append_ne _ _ _)
    | cons b bs =>
      simp only [List.flatMap_cons, List.append_assoc] at h
      obtain ⟨rfl, hrest⟩ := quotedChar_append_inj h
      obtain ⟨rfl, rfl⟩ := ih hrest
      exact ⟨rfl, rfl⟩

/-- **A text in quotes can be told from what stands behind it.** -/
theorem quoted_append_inj {as bs cs ds : List Char} (h : quoted as ++ cs = quoted bs ++ ds) :
    as = bs ∧ cs = ds := by
  refine flatMap_quotedChar_inj ?_
  simpa [quoted] using h

end AddressGate.Text
