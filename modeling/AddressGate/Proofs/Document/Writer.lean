/-
  What is written down is a document.

  * `letters_escape`: escaping spells every row of characters;
  * `written_textList`, `member_listMember`: the lists of the rules are written
    as lists of texts, and as members of an object.
-/
import AddressGate.Document.Writer
import AddressGate.Proofs.Document.Grammar
import AddressGate.Proofs.Number

namespace AddressGate.Document

variable {v : Value} {t : List Char}

/-! ## Texts -/

theorem isUnit_unitText {n : Nat} (h : n < 0x10000) : IsUnit (unitText n) n := by
  have hdigit : ∀ d, Text.digitValue? 16 (Nat.digitChar (d % 0x10)) = some (d % 0x10) :=
    fun d => Text.digitValue?_digitChar (by decide) (Nat.mod_lt d (by decide))
  refine ⟨rfl, ?_⟩
  simp only [unitText, List.map_cons, List.map_nil, Text.number?, Text.numberFrom?, hdigit,
    Option.bind_some, Option.some_inj]
  omega

theorem spelled_escape (c : Char) : Spelled c (escape c) := by
  unfold escape
  split
  case h_8 hq hb _ _ _ _ _ =>
    split
    · next hc =>
      have hlt : c.toNat < 0x20 := of_decide_eq_true hc
      exact .unit (isUnit_unitText (by omega))
    · next hc => exact .raw hq hb (by simpa [isControl] using hc)
  all_goals exact .letter (by decide)

theorem letters_escape (cs : List Char) : Letters cs (cs.flatMap escape) := by
  induction cs with
  | nil => exact .nil
  | cons c cs ih => exact .cons (spelled_escape c) ih

/-! ## Lists -/

theorem isBlank_nil : IsBlank [] := nofun

theorem element_of_written (h : Written v t) : Element v t := by
  have he : Element v ([] ++ t ++ []) := .mk isBlank_nil h isBlank_nil
  rwa [List.nil_append, List.append_nil] at he

theorem element_quotation (s : String) : Element (.text s) (quotation s.toList) :=
  element_of_written (.text (letters_escape s.toList))

theorem elements_joined {ss : List String} (hne : ss ≠ []) :
    Elements (ss.map .text) ([','].intercalate (ss.map fun s => quotation s.toList)) := by
  induction ss with
  | nil => exact absurd rfl hne
  | cons s ss ih =>
    by_cases hss : ss = []
    · subst hss
      rw [List.map_singleton, List.map_singleton, List.intercalate_singleton]
      exact .last (element_quotation s)
    · rw [List.map_cons, List.map_cons, List.intercalate_cons_of_ne_nil (by simpa using hss),
        List.append_assoc, List.singleton_append]
      exact .more (element_quotation s) (ih hss)

theorem written_textList (ss : List String) : Written (.texts ss) (textList ss) := by
  by_cases hss : ss = []
  · subst hss; exact .emptyList isBlank_nil
  · exact .list (elements_joined hss)

theorem member_listMember (r : Rules) (l : ListName) :
    Member (l.text, .texts (r.entries l)) (listMember r l) := by
  have hm : Member (l.text, .texts (r.entries l)) ([] ++ quotation l.text.toList ++ [] ++ ':' ::
      textList (r.entries l)) :=
    .mk isBlank_nil (letters_escape _) isBlank_nil (element_of_written (written_textList _))
  rwa [List.nil_append, List.append_nil] at hm

end AddressGate.Document
