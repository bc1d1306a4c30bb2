/-
  Which documents give rules, and which rules they give.

  * `Value.Denotes v r`: the value says the rules, as an object that names each
    list at most once, or as a list of at most two lists;
  * `State.document_outcome`: however a value is written, the document is read as
    the rules that it denotes, or it denotes none and is refused;
  * `Rules.ofDocument_written`: the same of loading, which depends on nothing
    else.
-/
import Mathlib.Data.List.Perm.Basic
import AddressGate.Proofs.Document.Members
import AddressGate.Proofs.Document.Writer
import AddressGate.Session

namespace AddressGate

namespace Document

variable {v v' : Value} {ms ms' : List (String × Value)} {l : ListName} {r r' : Rules} {d : Draft}

/-! ## What a value says -/

/-- The members name the list once, as a list of texts, or they do not name it
    and it is empty. -/
def Names (ms : List (String × Value)) (l : ListName) (es : List String) : Prop :=
  named ms l = [(l.text, .texts es)] ∨ named ms l = [] ∧ es = []

/-- The value says the rules: an object whose members name the lists, or a list
    of the blacklist and the whitelist, or of the first, or of none of them. -/
inductive Value.Denotes : Value → Rules → Prop
  | object {ms : List (String × Value)} {r : Rules} (h : ∀ l, Names ms l (r.entries l)) :
      Denotes (.object ms) r
  | neither : Denotes (.list []) ⟨[], []⟩
  | first (blacklist : List String) : Denotes (.list [.texts blacklist]) ⟨blacklist, []⟩
  | both (blacklist whitelist : List String) :
      Denotes (.list [.texts blacklist, .texts whitelist]) ⟨blacklist, whitelist⟩

/-- The values differ at most in the order of members, and in members that name
    no list. -/
inductive Value.Alike : Value → Value → Prop
  | refl (v : Value) : Alike v v
  | object {ms ms' : List (String × Value)} (h : ∀ l, (named ms l).Perm (named ms' l)) :
      Alike (.object ms) (.object ms')

theorem Names.of_perm {es : List String} (h : Names ms l es)
    (hp : (named ms l).Perm (named ms' l)) : Names ms' l es := by
  rcases h with h | ⟨h, hes⟩
  · rw [h] at hp; exact .inl (List.singleton_perm.1 hp).symm
  · rw [h] at hp; exact .inr ⟨List.nil_perm.1 hp, hes⟩

theorem Value.Alike.symm (h : v.Alike v') : v'.Alike v := by
  cases h with
  | refl => exact .refl v
  | object h => exact .object fun l => (h l).symm

theorem Value.Denotes.of_alike (h : v.Denotes r) (ha : v.Alike v') : v'.Denotes r := by
  cases ha with
  | refl => exact h
  | object hp =>
    obtain ⟨h⟩ := h
    exact .object fun l => (h l).of_perm (hp l)

theorem Names.unique {es es' : List String} (h : Names ms l es) (h' : Names ms l es') :
    es = es' := by
  rcases h with h | ⟨h, rfl⟩ <;> rcases h' with h' | ⟨h', rfl⟩ <;> rw [h] at h'
  · obtain ⟨hm, -⟩ := List.cons.inj h'
    exact Draft.texts_injective (Prod.mk.inj hm).2
  · cases h'
  · cases h'

/-- A value denotes at most one set of rules. -/
theorem Value.Denotes.unique (h : v.Denotes r) (h' : v.Denotes r') : r = r' := by
  cases h with
  | object h =>
    obtain ⟨h'⟩ := h'
    have hl : ∀ l, r.entries l = r'.entries l := fun l => (h l).unique (h' l)
    obtain ⟨b, w⟩ := r
    obtain ⟨b', w'⟩ := r'
    exact congrArg₂ Rules.mk (hl .blacklist) (hl .whitelist)
  | neither => cases h'; rfl
  -- The texts are hidden, as two images of `List.map` do not unify.
  | first b =>
    generalize hb : Value.texts b = u at h'
    cases h' with
    | first b' => rw [Draft.texts_injective hb]
  | both b w =>
    generalize hb : Value.texts b = u at h'
    generalize hw : Value.texts w = x at h'
    cases h' with
    | both b' w' => rw [Draft.texts_injective hb, Draft.texts_injective hw]

theorem not_denotes_of_length {vs : List Value} (h : 2 < vs.length) :
    ¬ (Value.list vs).Denotes r := by
  intro hd
  cases hd <;> simp at h

theorem Elements.length_pos {vs : List Value} {ts : List Char} (h : Elements vs ts) :
    0 < vs.length := by
  cases h <;> simp

/-! ## Drafts and what they denote -/

theorem Draft.entries_rules (d : Draft) (l : ListName) :
    d.rules.entries l = (d.get? l).getD [] := by
  cases l <;> rfl

theorem Draft.extends_empty_iff : empty.Extends ms d ↔ ∀ l, named ms l = d.member l := by
  refine forall_congr' fun l => ?_
  have hnone : empty.member l = [] := by cases l <;> rfl
  rw [hnone, List.nil_append]

theorem names_iff {es : List String} : Names ms l es ↔ ∃ es? : Option (List String),
    (named ms l = es?.toList.map fun es => (l.text, .texts es)) ∧ es?.getD [] = es := by
  constructor
  · rintro (h | ⟨h, rfl⟩)
    · exact ⟨some es, h, rfl⟩
    · exact ⟨none, h, rfl⟩
  · rintro ⟨_ | es, h, rfl⟩
    · exact .inr ⟨h, rfl⟩
    · exact .inl h

/-- The members denote the rules of the draft that they make. -/
theorem denotes_object_iff :
    (Value.object ms).Denotes r ↔ ∃ d, Draft.empty.Extends ms d ∧ d.rules = r := by
  constructor
  · rintro ⟨h⟩
    obtain ⟨b?, hb, hbr⟩ := names_iff.1 (h .blacklist)
    obtain ⟨w?, hw, hwr⟩ := names_iff.1 (h .whitelist)
    refine ⟨⟨b?, w?⟩, Draft.extends_empty_iff.2 fun l => ?_, ?_⟩
    · cases l
      · exact hb
      · exact hw
    · rw [Draft.rules, hbr, hwr]; rfl
  · rintro ⟨d, hd, rfl⟩
    refine .object fun l => names_iff.2 ⟨d.get? l, ?_, (d.entries_rules l).symm⟩
    exact Draft.extends_empty_iff.1 hd l

/-! ## Documents -/

namespace State

variable {s : State} {c e : Char} {ts : List Char}

/-- The characters lead to an end of the rules that the value denotes, or it
    denotes none and they are refused. -/
def Decides (s : State) (ts : List Char) (v : Value) (IsEnd : State → Rules → Prop) : Prop :=
  (∃ r u, v.Denotes r ∧ Leads Reads s ts u ∧ IsEnd u r) ∨ ((∀ r, ¬ v.Denotes r) ∧ s.Refuses ts)

theorem Decides.of_leads {t : State} {cs : List Char} {IsEnd : State → Rules → Prop}
    (h : t.Decides ts v IsEnd) (hs : Leads Reads s cs t) : s.Decides (cs ++ ts) v IsEnd := by
  rcases h with ⟨r, u, hr, hts, he⟩ | ⟨hnone, hr⟩
  · exact .inl ⟨r, u, hr, hs.append hts, he⟩
  · exact .inr ⟨hnone, refuses_of_leads hs hr⟩

/-- The closing bracket ends the rules. -/
def EndsWith (e : Char) (u : State) (r : Rules) : Prop := u.Reads e (closed r)

theorem decides_brackets (hc : Reads .start c s) (h : s.Decides ts v (EndsWith e)) :
    Decides .start (c :: ts ++ [e]) v (· = closed ·) := by
  rcases h with ⟨r, u, hr, hts, he⟩ | ⟨hnone, hr⟩
  · exact .inl ⟨r, _, hr, .cons hc (hts.snoc he), rfl⟩
  · exact .inr ⟨hnone, refuses_append (refuses_of_leads (.single hc) hr) [e]⟩

theorem reads_brace : Reads .start '\x7b' (member .empty .first) := rfl

theorem reads_bracket : Reads .start '[' (element .empty .blacklist .first) := rfl

theorem decides_members (h : Members ms ts) :
    (member .empty .first).Decides ts (.object ms) (EndsWith '\x7d') := by
  rcases members_outcome h .first with ⟨d, u, hd, hts, hu⟩ | ⟨hnone, hr⟩
  · exact .inl ⟨d.rules, u, denotes_object_iff.2 ⟨d, hd, rfl⟩, hts, hu.reads_closing⟩
  · refine .inr ⟨fun r hr => ?_, hr⟩
    obtain ⟨d, hd, -⟩ := denotes_object_iff.1 hr
    exact hnone d hd

/-- What follows the blacklist and a comma. -/
theorem decides_second (bs : List String) {vs : List Value} (h : Elements vs ts) :
    (element ⟨some bs, none⟩ .whitelist .comma).Decides ts (.list (.texts bs :: vs))
      (EndsWith ']') := by
  generalize hu : Value.texts bs = u
  have hstart := AwaitsList.comma ⟨some bs, none⟩ .whitelist
  cases h with
  | last h =>
    rcases list_outcome h hstart with ⟨xs, rfl, hx⟩ | ⟨hne, hr⟩
    · subst hu
      exact .inl ⟨_, _, .both bs xs, leads_of_open hx, rfl⟩
    · refine .inr ⟨fun r hd => ?_, hr⟩
      cases hd with
      | both _ xs => exact hne xs rfl
  | more h hs =>
    -- Three values: the second comma leads to a dead end, unless the second value did.
    refine .inr ⟨fun r => not_denotes_of_length (by simp [hs.length_pos]), ?_⟩
    rcases list_outcome h hstart with ⟨xs, rfl, hx⟩ | ⟨-, hr⟩
    · refine refuses_of_leads (leads_of_open hx) (refuses_of_dead_step (fun t ht => ?_) _)
      cases ht
      exact .lastElement _
    · exact refuses_append hr _

theorem decides_elements {vs : List Value} (h : Elements vs ts) :
    (element .empty .blacklist .first).Decides ts (.list vs) (EndsWith ']') := by
  cases h with
  | last h =>
    rcases list_outcome h (.first .empty .blacklist) with ⟨bs, rfl, hb⟩ | ⟨hne, hr⟩
    · exact .inl ⟨_, _, .first bs, leads_of_open hb, rfl⟩
    · refine .inr ⟨fun r hd => ?_, hr⟩
      cases hd with
      | first bs => exact hne bs rfl
  | more h hs =>
    rcases list_outcome h (.first .empty .blacklist) with ⟨bs, rfl, hb⟩ | ⟨hne, hr⟩
    · have hcomma : Reads (afterList ⟨.list, .empty, .blacklist⟩ bs) ','
          (element ⟨some bs, none⟩ .whitelist .comma) := rfl
      have hfirst := (leads_of_open hb).snoc hcomma
      rw [List.append_cons]
      exact (decides_second bs hs).of_leads hfirst
    · refine .inr ⟨fun r hd => ?_, refuses_append hr _⟩
      cases hd with
      | first bs => exact hne bs rfl
      | both bs xs => exact hne bs rfl

theorem decides_scalar (h : Written v ts) (hl : ∀ vs, v ≠ .list vs) (ho : ∀ ms, v ≠ .object ms) :
    Decides .start ts v (· = closed ·) := by
  refine .inr ⟨fun r hr => ?_, ?_⟩
  · cases hr with
    | object => exact ho _ rfl
    | neither | first | both => exact hl _ rfl
  · obtain ⟨c, cs, rfl, hc⟩ := exists_head h
    refine refuses_of_dead_step (fun t ht => ?_) cs
    rw [step_eq_stepOther hc.isSpace, stepOther, beginRules, if_neg (hc.ne_brace ho),
      if_neg (hc.ne_bracket hl)] at ht
    exact dead_of_refuse ht

theorem decides_written (h : Written v ts) : Decides .start ts v (· = closed ·) := by
  cases h with
  | null => exact decides_scalar .null nofun nofun
  | boolean b => exact decides_scalar (.boolean b) nofun nofun
  | number n => exact decides_scalar (.number n) nofun nofun
  | text h => exact decides_scalar (.text h) nofun nofun
  | emptyList hw =>
    exact decides_brackets reads_bracket (.inl ⟨_, _, .neither, leads_blank rfl hw, rfl⟩)
  | list h => exact decides_brackets reads_bracket (decides_elements h)
  | emptyObject hw =>
    have hnone : (Value.object []).Denotes ⟨[], []⟩ :=
      .object fun l => .inr ⟨rfl, by cases l <;> rfl⟩
    exact decides_brackets reads_brace (.inl ⟨_, _, hnone, leads_blank rfl hw, rfl⟩)
  | object h => exact decides_brackets reads_brace (decides_members h)

/-- **A document is read as the rules that it denotes, or refused.** -/
theorem document_outcome (h : Element v ts) :
    (∃ r, v.Denotes r ∧ Leads Reads .start ts (closed r)) ∨
    ((∀ r, ¬ v.Denotes r) ∧ Refuses .start ts) := by
  obtain ⟨hw, h, hw'⟩ := h
  have hbefore : Leads Reads .start _ .start := leads_blank rfl hw
  rcases (decides_written h).of_leads hbefore with ⟨r, _, hr, hts, rfl⟩ | ⟨hnone, hr⟩
  · exact .inl ⟨r, hr, hts.append (leads_blank rfl hw')⟩
  · exact .inr ⟨hnone, refuses_append hr _⟩

end State

end Document

/-! ## Loading -/

namespace Rules

open Document

variable {v : Document.Value} {r : Rules} {t : String}

theorem ofDocument_of_leads (h : Leads State.Reads .start t.toList (.closed r)) :
    ofDocument t = .ok r.withWarnings := by
  obtain ⟨o, hrun⟩ := State.run_of_leads h 0
  have hread : Document.read t.toList = .ok r := by
    rw [Document.read, ← List.append_nil t.toList, hrun]; rfl
  rw [ofDocument, hread]

theorem ofDocument_of_refuses (h : State.start.Refuses t.toList) :
    ∃ e, ofDocument t = .error e := by
  obtain ⟨f, hf⟩ := h 0 []
  have hread : Document.read t.toList = .error f := by
    rw [Document.read, ← hf, List.append_nil]
  rw [ofDocument, hread]
  exact ⟨_, rfl⟩

/-- The rules of a document are those that it denotes, with their warnings. -/
theorem toOption_ofDocument_eq_some_iff (h : Element v t.toList) {p : Reported Event Rules} :
    (ofDocument t).toOption = some p ↔ ∃ r, v.Denotes r ∧ r.withWarnings = p := by
  rcases State.document_outcome h with ⟨r, hr, hts⟩ | ⟨hnone, hr⟩
  · rw [ofDocument_of_leads hts, Except.toOption, Option.some_inj]
    constructor
    · rintro rfl
      exact ⟨r, hr, rfl⟩
    · rintro ⟨r', hr', rfl⟩
      rw [hr.unique hr']
  · obtain ⟨e, he⟩ := ofDocument_of_refuses hr
    rw [he]
    exact ⟨nofun, fun ⟨r, hr, _⟩ => absurd hr (hnone r)⟩

/-- **A document gives the rules that its value denotes, however it is written,
    and an error if there are none.**  The call that loads it answers with these
    rules and their warnings, or with the error, and then it reports nothing and
    changes nothing.  So the order of members does not matter, nor do members
    that name no list. -/
theorem ofDocument_written (h : Element v t.toList) :
    (∀ r, v.Denotes r → ofDocument t = .ok r.withWarnings ∧
      ∀ s : Session, s.perform (.document t) = ⟨({ s with rules := r }, .rules r), r.warnings⟩) ∧
    ((∀ r, ¬ v.Denotes r) → ∃ e, ofDocument t = .error e ∧
      ∀ s : Session, s.perform (.document t) = ⟨(s, .noDocument e), []⟩) ∧
    ∀ v' t', v.Alike v' → Element v' t'.toList →
      (ofDocument t').toOption = (ofDocument t).toOption := by
  refine ⟨fun r hr => ?_, fun hnone => ?_, fun v' t' ha h' => ?_⟩
  · rcases State.document_outcome h with ⟨r', hr', hts⟩ | ⟨hnone, -⟩
    · rw [hr.unique hr']
      have hload := ofDocument_of_leads hts
      exact ⟨hload, fun s => s.perform_document_of_ok hload⟩
    · exact absurd hr (hnone r)
  · rcases State.document_outcome h with ⟨r, hr, -⟩ | ⟨-, hr⟩
    · exact absurd hr (hnone r)
    · obtain ⟨e, he⟩ := ofDocument_of_refuses hr
      exact ⟨e, he, fun s => s.perform_document_of_error he⟩
  · refine Option.ext fun p => ?_
    rw [toOption_ofDocument_eq_some_iff h, toOption_ofDocument_eq_some_iff h']
    exact exists_congr fun r => and_congr_left fun _ => ⟨(·.of_alike ha.symm), (·.of_alike ha)⟩

/-- An ignored member, an escaped key, and a character of two surrogates. -/
theorem ofDocument_escaped_key :
    Element (.object [("x", .list [.null, .object []]), ("blacklist", .texts ["\"😀"])])
      " \x7b\"x\":[null,\x7b\x7d],\"\\u0062lacklist\" :[\"\\\"\\uD83D\\uDE00\"]\x7d\n".toList ∧
    ofDocument " \x7b\"x\":[null,\x7b\x7d],\"\\u0062lacklist\" :[\"\\\"\\uD83D\\uDE00\"]\x7d\n" =
      .ok (⟨["\"😀"], []⟩ : Rules).withWarnings := by
  have hspace : IsBlank [' '] := List.forall_mem_singleton.2 rfl
  have hline : IsBlank ['\n'] := List.forall_mem_singleton.2 rfl
  have hkey : Letters "blacklist".toList ("\\u0062".toList ++ "lacklist".toList) :=
    .cons (.unit ⟨rfl, by decide⟩) (letters_escape "lacklist".toList)
  have hleading : IsUnit "D83D".toList (0xD800 + 0x3D) := ⟨rfl, by decide⟩
  have htrailing : IsUnit "DE00".toList (0xDC00 + 0x200) := ⟨rfl, by decide⟩
  have htext : Letters "\"😀".toList ("\\\"".toList ++ ("\\uD83D\\uDE00".toList ++ [])) :=
    .cons (.letter (by decide)) (.cons (.pair hleading htrailing (by decide) (by decide)
      (by decide)) .nil)
  have hx : Member ("x", .list [.null, .object []]) "\"x\":[null,\x7b\x7d]".toList :=
    .mk isBlank_nil (letters_escape "x".toList) isBlank_nil (element_of_written
      (.list (.more (element_of_written .null) (.last (element_of_written
        (.emptyObject isBlank_nil))))))
  have hblacklist : Member ("blacklist", .texts ["\"😀"])
      "\"\\u0062lacklist\" :[\"\\\"\\uD83D\\uDE00\"]".toList :=
    .mk isBlank_nil hkey hspace (element_of_written
      (.list (.last (element_of_written (.text htext)))))
  have helement := Element.mk hspace (.object (.more hx (.last hblacklist))) hline
  refine ⟨helement, ((ofDocument_written helement).1 _ (.object fun l => ?_)).1⟩
  cases l with
  | blacklist => exact .inl rfl
  | whitelist => exact .inr ⟨rfl, rfl⟩

end Rules

end AddressGate
