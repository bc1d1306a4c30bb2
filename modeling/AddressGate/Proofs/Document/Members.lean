/-
  Reading the members of an object.

  * `Draft.Extends d ms d'`: the lists of `d'` are those of `d` and those that
    the members name, none of them twice;
  * `State.members_outcome`: where a key is due, written members are read as
    such an extension, whatever the ignored ones hold, or there is none and the
    document is refused whatever follows.
-/
import Mathlib.Data.List.Basic
import AddressGate.Proofs.Document.Lists
import AddressGate.Proofs.Document.Skipped

namespace AddressGate

namespace Document

theorem listOfKey?_text (l : ListName) : listOfKey? l.text.toList = some l := by
  cases l <;> rfl

theorem listOfKey?_eq_none {k : String} (h : ∀ l : ListName, k ≠ l.text) :
    listOfKey? k.toList = none := by
  rw [listOfKey?, List.find?_eq_none]
  intro l _ hl
  exact h l (String.toList_inj.1 (of_decide_eq_true hl)).symm

/-! ## Lists that members name -/

/-- The members with the name of a list. -/
def named (ms : List (String × Value)) (l : ListName) : List (String × Value) :=
  ms.filter fun m => m.1 = l.text

theorem named_cons_self (l : ListName) (v : Value) (ms : List (String × Value)) :
    named ((l.text, v) :: ms) l = (l.text, v) :: named ms l :=
  List.filter_cons_of_pos (by simp)

theorem named_cons_of_ne {k : String} {l : ListName} (h : k ≠ l.text) (v : Value)
    (ms : List (String × Value)) : named ((k, v) :: ms) l = named ms l :=
  List.filter_cons_of_neg (by simpa using h)

namespace Draft

variable {d d' : Draft} {l : ListName} {k : String} {v : Value} {ms : List (String × Value)}

@[simp]
theorem get?_set_self (d : Draft) (l : ListName) (es : List String) :
    (d.set l es).get? l = some es := by
  cases l <;> rfl

theorem get?_set_of_ne {m : ListName} (h : l ≠ m) (d : Draft) (es : List String) :
    (d.set l es).get? m = d.get? m := by
  cases l <;> cases m <;> first | rfl | exact absurd rfl h

@[ext]
theorem ext_get? (h : ∀ l, d.get? l = d'.get? l) : d = d' := by
  obtain ⟨b, w⟩ := d
  obtain ⟨b', w'⟩ := d'
  have hb : b = b' := h .blacklist
  have hw : w = w' := h .whitelist
  rw [hb, hw]

/-- A list of a draft, as a member. -/
def member (d : Draft) (l : ListName) : List (String × Value) :=
  (d.get? l).toList.map fun es => (l.text, .texts es)

/-- The lists of a draft and those that the members name are those of another
    draft. -/
def Extends (d : Draft) (ms : List (String × Value)) (d' : Draft) : Prop :=
  ∀ l, d.member l ++ named ms l = d'.member l

theorem texts_injective : Function.Injective Value.texts := by
  intro xs ys h
  have hm : xs.map Value.text = ys.map Value.text := Value.list.inj h
  exact List.map_injective_iff.2 (fun _ _ => Value.text.inj) hm

theorem member_injective (h : d.member l = d'.member l) : d.get? l = d'.get? l := by
  rw [member, member] at h
  cases hd : d.get? l <;> cases hd' : d'.get? l <;> simp_all [texts_injective.eq_iff]

theorem extends_nil : d.Extends [] d' ↔ d = d' := by
  constructor
  · intro h
    refine ext_get? fun l => member_injective ?_
    have hl := h l
    rwa [named, List.filter_nil, List.append_nil] at hl
  · rintro rfl l
    exact List.append_nil _

/-- A member with another name changes nothing. -/
theorem extends_cons_other (hk : ∀ l : ListName, k ≠ l.text) :
    d.Extends ((k, v) :: ms) d' ↔ d.Extends ms d' := by
  simp only [Extends, named_cons_of_ne (hk _)]

/-- A list that is named for the first time becomes part of the draft. -/
theorem extends_cons_texts (hd : d.get? l = none) (es : List String) :
    d.Extends ((l.text, .texts es) :: ms) d' ↔ (d.set l es).Extends ms d' := by
  refine forall_congr' fun m => ?_
  by_cases hm : l = m
  · subst hm
    simp only [named_cons_self, member, hd, get?_set_self]; rfl
  · simp only [named_cons_of_ne (mt ListName.text_injective hm), member, get?_set_of_ne hm]

theorem not_extends_repeated (hd : (d.get? l).isSome) : ¬ d.Extends ((l.text, v) :: ms) d' := by
  intro h
  have hl := congrArg List.length (h l)
  obtain ⟨es, hes⟩ := Option.isSome_iff_exists.1 hd
  rw [named_cons_self, member, member, hes] at hl
  cases hd' : d'.get? l <;> simp [hd'] at hl

theorem not_extends_mistyped (hd : d.get? l = none) (hv : ∀ es, v ≠ .texts es) :
    ¬ d.Extends ((l.text, v) :: ms) d' := by
  intro h
  have hl := h l
  rw [named_cons_self, member, member, hd] at hl
  cases hd' : d'.get? l with
  | none => simp [hd'] at hl
  | some es => exact hv es (by simp_all)

end Draft

namespace State

variable {s u : State} {d : Draft} {c : Char} {ts w : List Char} {k : String} {v : Value}

/-! ## Keys -/

/-- A key is due. -/
inductive AwaitsKey (d : Draft) : State → Prop
  | first : AwaitsKey d (member d .first)
  | comma : AwaitsKey d (member d .comma)

theorem AwaitsKey.unfinished (h : AwaitsKey d s) : s.Unfinished := by
  cases h <;> exact ⟨_, rfl, rfl⟩

theorem AwaitsKey.skipsSpace (h : AwaitsKey d s) : s.skipsSpace = true := by
  cases h <;> rfl

/-- A key with the white space before it. -/
theorem leads_keyText {q : List Char} (hs : AwaitsKey d s) (hw : IsBlank w)
    (hk : Letters k.toList q) : Leads ReadsOpen s (w ++ inQuotes q) (afterKey d k.toList) := by
  have hopen : s.ReadsOpen '\"' (key d .start) := by
    refine ⟨hs.unfinished, ?_⟩
    rw [Reads, step_eq_stepOther (by decide)]
    cases hs <;> rfl
  have hkey := leads_key d (Quotation.leads_letters hk [])
  have hclose : (key d ⟨.outside, k.toList.reverse⟩).ReadsOpen '\"'
      (afterKey d k.toList.reverse.reverse) := ⟨⟨.endInText, rfl, rfl⟩, rfl⟩
  rw [List.append_nil] at hkey
  rw [List.reverse_reverse] at hclose
  have hquoted := Leads.cons hopen (hkey.snoc hclose)
  exact (leadsOpen_blank hs.skipsSpace hs.unfinished hw).append hquoted

theorem leads_colon (list? : Option ListName) (hw : IsBlank w) :
    Leads ReadsOpen (colon d list?) w (colon d list?) :=
  leadsOpen_blank rfl ⟨_, rfl, rfl⟩ hw

/-! ## One member -/

/-- A list that is named for the first time is read, or refused. -/
theorem listMember_outcome {l : ListName} (h : Member (l.text, v) ts) (hs : AwaitsKey d s)
    (hd : d.get? l = none) :
    (∃ es, v = .texts es ∧ Leads ReadsOpen s ts (member (d.set l es) .next)) ∨
    ((∀ es, v ≠ .texts es) ∧ s.Refuses ts) := by
  generalize hk : l.text = k at h
  obtain ⟨hw, hq, hw', hv⟩ := h
  subst hk
  have hafter : afterKey d l.text.toList = colon d (some l) := by
    simp [afterKey, listOfKey?_text, hd]
  have hkey := leads_keyText hs hw hq
  rw [hafter] at hkey
  have hcolon : (colon d (some l)).ReadsOpen ':' (listDue ⟨.object, d, l⟩) :=
    ⟨⟨.endInObject, rfl, rfl⟩, rfl⟩
  have hbefore := (hkey.append (leads_colon (some l) hw')).snoc hcolon
  rw [List.append_cons]
  rcases list_outcome hv (.listDue ⟨.object, d, l⟩) with ⟨es, rfl, hes⟩ | ⟨hne, hr⟩
  · exact .inl ⟨es, rfl, hbefore.append hes⟩
  · exact .inr ⟨hne, refuses_of_leads (leads_of_open hbefore) hr⟩

theorem refuses_repeated {l : ListName} (h : Member (l.text, v) ts) (hs : AwaitsKey d s)
    (hd : (d.get? l).isSome) : s.Refuses ts := by
  generalize hk : l.text = k at h
  obtain ⟨hw, hq, hw', hv⟩ := h
  subst hk
  have hafter : afterKey d l.text.toList = repeated l := by
    simp [afterKey, listOfKey?_text, hd]
  have hkey := leads_keyText hs hw hq
  rw [hafter] at hkey
  rw [List.append_assoc]
  exact refuses_of_leads (leads_of_open hkey) (refuses_append (Dead.repeated l).refuses _)

/-- A member was read, an ignored one maybe without notice. -/
inductive Behind (d : Draft) : State → Prop
  | member : Behind d (member d .next)
  | skipped {v : Skipped} (h : Skipped.Behind [] v) : Behind d (skipped d v)

theorem Behind.step_eq (h : Behind d s) (hc : EndsValue c) :
    s.step c = if isSpace c then .ok (State.member d .next) else stepMember d .next c := by
  cases h with
  | member => simp [step, State.skipsSpace, stepOther]
  | skipped h =>
    simp only [step, State.skipsSpace, Bool.false_eq_true, false_and, if_false, stepOther,
      h.step_eq hc]
    split_ifs <;> rfl

theorem Behind.reads_space (h : Behind d s) (hc : isSpace c = true) :
    s.Reads c (State.member d .next) := by
  rw [Reads, h.step_eq (.inl hc), if_pos hc]

theorem Behind.reads_comma (h : Behind d s) : s.Reads ',' (State.member d .comma) := by
  rw [Reads, h.step_eq (.inr (.inl rfl))]; rfl

theorem Behind.reads_closing (h : Behind d s) : s.Reads '\x7d' (closed d.rules) := by
  rw [Reads, h.step_eq (.inr (.inr (.inr rfl)))]; rfl

theorem Behind.exists_leads_blank (h : Behind d s) (hw : IsBlank w) :
    ∃ u, Leads Reads s w u ∧ Behind d u := by
  obtain _ | ⟨c, w⟩ := w
  · exact ⟨s, .nil s, h⟩
  · have hrest : IsBlank w := fun e he => hw e (by simp [he])
    have hstay := leads_blank (s := State.member d .next) rfl hrest
    exact ⟨_, .cons (h.reads_space (hw c (by simp))) hstay, .member⟩

/-- What is read as part of an ignored value is read as part of its member. -/
theorem reads_skipped (d : Draft) {v v' : Skipped} (h : v.Reads c v') :
    (skipped d v).Reads c (skipped d v') := by
  rw [Skipped.Reads] at h
  rw [Reads, step, if_neg (by simp [State.skipsSpace]), stepOther, h]; rfl

/-- A member with another name is passed over. -/
theorem leads_otherMember (h : Member (k, v) ts) (hs : AwaitsKey d s)
    (hk : ∀ l : ListName, k ≠ l.text) : ∃ u, Leads Reads s ts u ∧ Behind d u := by
  obtain ⟨hw, hq, hw', ⟨hw₁, hv, hw₂⟩⟩ := h
  have hafter : afterKey d k.toList = colon d none := by
    simp [afterKey, listOfKey?_eq_none hk]
  have hkey := leads_keyText hs hw hq
  rw [hafter] at hkey
  have hcolon : (colon d none).ReadsOpen ':' (skipped d .start) :=
    ⟨⟨.endInObject, rfl, rfl⟩, rfl⟩
  have hbefore := leads_of_open ((hkey.append (leads_colon none hw')).snoc hcolon)
  obtain ⟨v', hskip, hb⟩ := Skipped.skips_written hv (.value [])
  have hvalue := ((Skipped.Due.value []).leads_blank hw₁).append hskip
  have hlift := hvalue.map (skipped d) (reads_skipped d)
  obtain ⟨u, hblank, hu⟩ := (Behind.skipped (d := d) hb).exists_leads_blank hw₂
  refine ⟨u, ?_, hu⟩
  rw [List.append_cons]
  exact hbefore.append (hlift.append hblank)

/-- **A member is read into the draft, or refused.** -/
theorem member_outcome {m : String × Value} (h : Member m ts) (hs : AwaitsKey d s) :
    (∃ d₁ u, (∀ ms d', d.Extends (m :: ms) d' ↔ d₁.Extends ms d') ∧ Leads Reads s ts u ∧
      Behind d₁ u) ∨
    ((∀ ms d', ¬ d.Extends (m :: ms) d') ∧ s.Refuses ts) := by
  obtain ⟨k, v⟩ := m
  by_cases hk : ∃ l : ListName, k = l.text
  · obtain ⟨l, rfl⟩ := hk
    cases hd : d.get? l with
    | none =>
      rcases listMember_outcome h hs hd with ⟨es, rfl, hes⟩ | ⟨hne, hr⟩
      · exact .inl ⟨_, _, fun ms d' => Draft.extends_cons_texts hd es, leads_of_open hes, .member⟩
      · exact .inr ⟨fun ms d' => Draft.not_extends_mistyped hd hne, hr⟩
    | some es =>
      have hsome : (d.get? l).isSome := by rw [hd]; rfl
      exact .inr ⟨fun ms d' => Draft.not_extends_repeated hsome, refuses_repeated h hs hsome⟩
  · rw [not_exists] at hk
    obtain ⟨u, hu, hb⟩ := leads_otherMember h hs hk
    exact .inl ⟨d, u, fun ms d' => Draft.extends_cons_other hk, hu, hb⟩

/-- **Members are read as an extension of the draft, or refused.** -/
theorem members_outcome {ms : List (String × Value)} (h : Members ms ts) (hs : AwaitsKey d s) :
    (∃ d' u, d.Extends ms d' ∧ Leads Reads s ts u ∧ Behind d' u) ∨
    ((∀ d', ¬ d.Extends ms d') ∧ s.Refuses ts) := by
  -- `member_outcome` speaks of all members that may follow, and so carries the induction.
  induction ms generalizing d s ts with
  | nil => cases h
  | cons m ms ih =>
    cases h with
    | last h =>
      rcases member_outcome h hs with ⟨d₁, u, hd₁, hu, hb⟩ | ⟨hnone, hr⟩
      · exact .inl ⟨d₁, u, (hd₁ [] d₁).2 (Draft.extends_nil.2 rfl), hu, hb⟩
      · exact .inr ⟨hnone [], hr⟩
    | more h hts =>
      rcases member_outcome h hs with ⟨d₁, u, hd₁, hu, hb⟩ | ⟨hnone, hr⟩
      · have hfirst := hu.snoc hb.reads_comma
        rw [List.append_cons]
        rcases ih hts .comma with ⟨d', u', hd', hu', hb'⟩ | ⟨hnone, hr⟩
        · exact .inl ⟨d', u', (hd₁ ms d').2 hd', hfirst.append hu', hb'⟩
        · exact .inr ⟨fun d' => mt (hd₁ ms d').1 (hnone d'), refuses_of_leads hfirst hr⟩
      · exact .inr ⟨hnone ms, refuses_append hr _⟩

end State

end Document

end AddressGate
