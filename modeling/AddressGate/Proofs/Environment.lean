/-
  Rules from the environment, by the state of the two variables.

  * `VariableText value t`: a variable stands for the text `t`; the alternative
    is `NotUnicode value`, and there is no third one
    (`variableText_or_notUnicode`);
  * `readVariable_eq_ok_iff` and `readVariable_of_notUnicode` say what reading
    one variable gives;
  * `length_splitEntries`: the entries of a list are counted by the pieces
    between its commas (`filledPieces`);
  * `environment_by_variables`: what reading both lists gives, reports and
    changes, for every state of the variables.
-/
import AddressGate.Proofs.Trim
import AddressGate.Session

namespace AddressGate

/-! ## One variable -/

/-- The text that a variable stands for: the one it is set to, or the empty text
    if it is not set. -/
inductive VariableText : Option ByteArray → String → Prop
  | missing : VariableText none ""
  | set (s : String) : VariableText (some s.toUTF8) s

/-- The variable is set to bytes that no text has in UTF-8. -/
inductive NotUnicode : Option ByteArray → Prop
  | mk {bytes : ByteArray} (h : ∀ s : String, s.toUTF8 ≠ bytes) : NotUnicode (some bytes)

/-- The error is about the variable, and its wording begins so. -/
structure EnvironmentError.Names (e : EnvironmentError) (name : String) : Prop where
  name_eq : e.name = name
  message_eq : ∃ value,
    e.message = "Cannot read " ++ name ++ ": environment variable was not valid unicode: " ++ value

theorem fromUTF8?_eq_some_iff {bytes : ByteArray} {s : String} :
    String.fromUTF8? bytes = some s ↔ s.toUTF8 = bytes := by
  unfold String.fromUTF8?
  constructor
  · intro h
    split at h
    · cases h; rfl
    · cases h
  · rintro rfl
    exact dif_pos s.isValidUTF8

theorem variableText_or_notUnicode (v : Option ByteArray) :
    (∃ t, VariableText v t) ∨ NotUnicode v := by
  cases v with
  | none => exact Or.inl ⟨"", .missing⟩
  | some bytes =>
    by_cases h : ∃ s : String, s.toUTF8 = bytes
    · obtain ⟨s, rfl⟩ := h
      exact Or.inl ⟨s, .set s⟩
    · exact Or.inr (.mk fun s hs => h ⟨s, hs⟩)

theorem VariableText.not_notUnicode {v : Option ByteArray} {t : String} (h : VariableText v t) :
    ¬ NotUnicode v := by
  rintro ⟨hn⟩
  cases h with
  | set => exact hn t rfl

section
variable {value? : String → Option ByteArray} {name : String}

theorem readVariable_eq_ok_iff {t : String} :
    readVariable value? name = .ok t ↔ VariableText (value? name) t := by
  unfold readVariable
  constructor
  · intro h
    split at h
    · next hv => cases h; rw [hv]; exact .missing
    · next bytes hv =>
      split at h
      · next s hs => cases h; rw [hv, ← fromUTF8?_eq_some_iff.1 hs]; exact .set t
      · cases h
  · intro h
    generalize value? name = v at h ⊢
    cases h with
    | missing => rfl
    | set => simp only [fromUTF8?_eq_some_iff.2 rfl]

theorem readVariable_of_notUnicode (h : NotUnicode (value? name)) :
    ∃ e : EnvironmentError, readVariable value? name = .error e ∧ e.Names name := by
  unfold readVariable
  generalize value? name = v at h ⊢
  obtain @⟨bytes, hn⟩ := h
  have hnone : String.fromUTF8? bytes = none :=
    Option.eq_none_iff_forall_ne_some.2 fun s hs => hn s (fromUTF8?_eq_some_iff.1 hs)
  simp only [hnone]
  exact ⟨_, rfl, rfl, _, rfl⟩

end

/-! ## Counting entries -/

/-- The number of pieces between the commas of a text that are not entirely
    blank. -/
def filledPieces (text : String) : Nat :=
  (text.toList.splitOn ',').countP fun piece => !piece.all Text.isBlank

theorem length_splitEntries (text : String) : (splitEntries text).length = filledPieces text := by
  rw [splitEntries, List.length_map, List.filter_map, List.length_map,
    ← List.countP_eq_length_filter, filledPieces]
  refine congrArg (List.countP · _) (funext fun piece => ?_)
  rw [Bool.eq_iff_iff, Function.comp_apply, decide_eq_true_iff, ne_eq, Text.trim_eq_nil_iff]
  simp

/-- Blank pieces are no entries. -/
example : filledPieces " 10.0.0.1 ,, ,10.0.0.2" = 2 := by decide +kernel

/-! ## Both variables -/

namespace Rules

variable {value? : String → Option ByteArray}

theorem ofEnvironment_of_texts {b w : String}
    (hb : VariableText (value? "REQUEST_IP_BLACKLIST") b)
    (hw : VariableText (value? "REQUEST_IP_WHITELIST") w) :
    ofEnvironment value? = .ok ⟨(load b w).result,
      (load b w).events ++ [.rulesLoaded (filledPieces b) (filledPieces w)]⟩ := by
  rw [← readVariable_eq_ok_iff] at hb hw
  rw [← length_splitEntries, ← length_splitEntries]
  simp only [ofEnvironment, ListName.variableName, hb, hw]
  rfl

/-- The blacklist is read first, so the whitelist does not matter here. -/
theorem ofEnvironment_of_blacklist (h : NotUnicode (value? "REQUEST_IP_BLACKLIST")) :
    ∃ e : EnvironmentError, ofEnvironment value? = .error e ∧ e.Names "REQUEST_IP_BLACKLIST" := by
  obtain ⟨e, he, hname⟩ := readVariable_of_notUnicode h
  refine ⟨e, ?_, hname⟩
  simp only [ofEnvironment, ListName.variableName, he]
  rfl

theorem ofEnvironment_of_whitelist {b : String}
    (hb : VariableText (value? "REQUEST_IP_BLACKLIST") b)
    (h : NotUnicode (value? "REQUEST_IP_WHITELIST")) :
    ∃ e : EnvironmentError, ofEnvironment value? = .error e ∧ e.Names "REQUEST_IP_WHITELIST" := by
  rw [← readVariable_eq_ok_iff] at hb
  obtain ⟨e, he, hname⟩ := readVariable_of_notUnicode h
  refine ⟨e, ?_, hname⟩
  simp only [ofEnvironment, ListName.variableName, hb, he]
  rfl

theorem ofEnvironment_eq_ok {l : Reported Event Rules} (h : ofEnvironment value? = .ok l) :
    ∃ b w, VariableText (value? "REQUEST_IP_BLACKLIST") b ∧
      VariableText (value? "REQUEST_IP_WHITELIST") w ∧
      l = ⟨(load b w).result,
        (load b w).events ++ [.rulesLoaded (filledPieces b) (filledPieces w)]⟩ := by
  rcases variableText_or_notUnicode (value? "REQUEST_IP_BLACKLIST") with ⟨b, hb⟩ | hb
  · rcases variableText_or_notUnicode (value? "REQUEST_IP_WHITELIST") with ⟨w, hw⟩ | hw
    · exact ⟨b, w, hb, hw, Except.ok.inj (h.symm.trans (ofEnvironment_of_texts hb hw))⟩
    · obtain ⟨e, he, -⟩ := ofEnvironment_of_whitelist hb hw
      cases h.symm.trans he
  · obtain ⟨e, he, -⟩ := ofEnvironment_of_blacklist hb
    cases h.symm.trans he

theorem exists_ofEnvironment_eq_error_iff : (∃ e, ofEnvironment value? = .error e) ↔
    NotUnicode (value? "REQUEST_IP_BLACKLIST") ∨ NotUnicode (value? "REQUEST_IP_WHITELIST") := by
  constructor
  · rintro ⟨e, he⟩
    rcases variableText_or_notUnicode (value? "REQUEST_IP_BLACKLIST") with ⟨b, hb⟩ | hb
    · refine Or.inr ((variableText_or_notUnicode _).resolve_left ?_)
      rintro ⟨w, hw⟩
      cases he.symm.trans (ofEnvironment_of_texts hb hw)
    · exact Or.inl hb
  · intro h
    rcases variableText_or_notUnicode (value? "REQUEST_IP_BLACKLIST") with ⟨b, hb⟩ | hb
    · obtain ⟨e, he, -⟩ := ofEnvironment_of_whitelist hb (h.resolve_left hb.not_notUnicode)
      exact ⟨e, he⟩
    · obtain ⟨e, he, -⟩ := ofEnvironment_of_blacklist hb
      exact ⟨e, he⟩

section
variable {e : EnvironmentError} (h : ofEnvironment value? = .error e)
include h

theorem names_blacklist (hb : NotUnicode (value? "REQUEST_IP_BLACKLIST")) :
    e.Names "REQUEST_IP_BLACKLIST" := by
  obtain ⟨e', he', hname⟩ := ofEnvironment_of_blacklist hb
  obtain rfl := Except.error.inj (h.symm.trans he')
  exact hname

theorem names_whitelist (hb : ¬ NotUnicode (value? "REQUEST_IP_BLACKLIST")) :
    e.Names "REQUEST_IP_WHITELIST" := by
  obtain ⟨b, ht⟩ := (variableText_or_notUnicode _).resolve_right hb
  have hw := (exists_ofEnvironment_eq_error_iff.1 ⟨e, h⟩).resolve_left hb
  obtain ⟨e', he', hname⟩ := ofEnvironment_of_whitelist ht hw
  obtain rfl := Except.error.inj (h.symm.trans he')
  exact hname

end

/-- **Rules from the environment, by the state of the two variables.**  Loading
    fails iff a variable is no text; the error names the blacklist whenever that
    one is, and else the whitelist.  Such a call reports nothing and changes
    nothing.  If both are texts, the call answers and reports as the one that
    loads these texts, and then reports how many entries they have. -/
theorem environment_by_variables (value? : String → Option ByteArray) :
    ((∃ e, ofEnvironment value? = .error e) ↔
      NotUnicode (value? "REQUEST_IP_BLACKLIST") ∨ NotUnicode (value? "REQUEST_IP_WHITELIST")) ∧
    (∀ e, ofEnvironment value? = .error e →
      (NotUnicode (value? "REQUEST_IP_BLACKLIST") → e.Names "REQUEST_IP_BLACKLIST") ∧
      (¬ NotUnicode (value? "REQUEST_IP_BLACKLIST") → e.Names "REQUEST_IP_WHITELIST") ∧
      ∀ s : Session, s.perform (.environment value?) = ⟨(s, .noEnvironment e), []⟩) ∧
    (∀ l, ofEnvironment value? = .ok l →
      ∃ b w, VariableText (value? "REQUEST_IP_BLACKLIST") b ∧
        VariableText (value? "REQUEST_IP_WHITELIST") w ∧ l.result = (load b w).result ∧
        (∃ done, l.events = (load b w).events ++ [done] ∧
          done.record = ⟨.info, "goodies::web::request_rules", "Request rules loaded",
            [("blacklist", .count (filledPieces b)), ("whitelist", .count (filledPieces w))]⟩) ∧
        ∀ s : Session, s.perform (.environment value?) =
          ⟨({ s with rules := l.result }, .rules l.result), l.events⟩) := by
  refine ⟨exists_ofEnvironment_eq_error_iff, fun e he => ?_, fun l hl => ?_⟩
  · exact ⟨names_blacklist he, names_whitelist he, fun s => s.perform_environment_of_error he⟩
  · obtain ⟨b, w, hb, hw, rfl⟩ := ofEnvironment_eq_ok hl
    exact ⟨b, w, hb, hw, rfl, ⟨_, rfl, rfl⟩, fun s => s.perform_environment_of_ok hl⟩

end Rules

end AddressGate
