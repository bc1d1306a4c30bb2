/-
  Which events a console shows, told by the text of its directives.

  * `Threshold.Spelled` and `Directive.Spelled`: how thresholds are written, and
    directives that are about no span; `Directive.spelled_iff` says that reading
    finds exactly these, where there are no others;
  * `Filter.Decides ds target d`: among the directives that name a beginning of
    the target, `d` names the most of it, and is the last one with its target;
    `Filter.deciding?_eq_some_iff`;
  * `Filter.Passes e text`: the event passes the test of the text;
    `Filter.admits_ofText?_iff`;
  * `Filter.passes_of_perm` and `Filter.passes_of_drop`: what may be changed in
    a text without changing its test.
-/
import Mathlib.Data.List.Induction
import Mathlib.Data.List.Nodup
import Mathlib.Data.List.Perm.Basic
import Mathlib.Tactic.Tauto
import AddressGate.Console.Filter
import AddressGate.Proofs.Number
import AddressGate.Proofs.Trim

namespace AddressGate

theorem Level.verbosity_le_error_iff {level : Level} :
    level.verbosity ≤ Level.error.verbosity ↔ level = .error := by
  cases level <;> decide

/-! ## How directives are written -/

namespace Threshold

/-- The text is a threshold: its name in letters of either case, or its place on
    the scale in ASCII digits, which a plus sign may precede. -/
inductive Spelled : List Char → Threshold → Prop
  | name {cs : List Char} {name : String} {t : Threshold} (h : (name, t) ∈ names)
      (hc : cs.map Char.toLower = name.toList) : Spelled cs t
  | place {sign ds : List Char} {n : ℕ} {name : String} {t : Threshold}
      (hs : sign = [] ∨ sign = ['+']) (hd : Text.IsDecimal ds n)
      (h : names[n]? = some (name, t)) : Spelled (sign ++ ds) t

variable {cs : List Char} {t : Threshold}

theorem numbered?_append {sign ds : List Char} {n : ℕ} (hs : sign = [] ∨ sign = ['+'])
    (hd : Text.IsDecimal ds n) : numbered? (sign ++ ds) = names[n]?.map Prod.snd := by
  have hnumber := Text.number?_ten_eq_some_iff.2 hd
  rcases hs with rfl | rfl
  · have hplus : ds.head? ≠ some '+' := by
      intro h
      have hmem := hd.1.2 '+' (List.mem_of_head? h)
      exact absurd hmem (by decide)
    rw [numbered?, List.nil_append, if_neg hplus, hnumber, Option.bind_some]
  · rw [numbered?]
    simp [hnumber]

theorem numbered?_eq_some_iff : numbered? cs = some t ↔
    ∃ sign ds n name, cs = sign ++ ds ∧ (sign = [] ∨ sign = ['+']) ∧ Text.IsDecimal ds n ∧
      names[n]? = some (name, t) := by
  constructor
  · intro h
    obtain ⟨n, hn, ht⟩ := Option.bind_eq_some_iff.1 h
    obtain ⟨⟨name, t⟩, hname, rfl⟩ := Option.map_eq_some_iff.1 ht
    rw [Text.number?_ten_eq_some_iff] at hn
    split_ifs at hn with hplus
    · refine ⟨['+'], cs.tail, n, name, ?_, Or.inr rfl, hn, hname⟩
      exact (List.eq_cons_of_mem_head? hplus)
    · exact ⟨[], cs, n, name, rfl, Or.inl rfl, hn, hname⟩
  · rintro ⟨sign, ds, n, name, rfl, hs, hd, h⟩
    rw [numbered?_append hs hd, h]
    rfl

theorem named?_eq_some_iff : named? cs = some t ↔
    ∃ name, (name, t) ∈ names ∧ cs.map Char.toLower = name.toList := by
  have hself : ∀ p ∈ names, names.lookup p.1 = some p.2 := by decide
  constructor
  · intro h
    obtain ⟨before, after, hnames, -⟩ := List.lookup_eq_some_iff.1 h
    refine ⟨_, ?_, String.toList_ofList.symm⟩
    rw [hnames]
    simp
  · rintro ⟨name, hn, hc⟩
    rw [named?, hc, String.ofList_toList]
    exact hself _ hn

/-- A name is no number. -/
theorem numbered?_of_name {name : String} (h : (name, t) ∈ names)
    (hc : cs.map Char.toLower = name.toList) : numbered? cs = none := by
  have hletters : ∀ p ∈ names, (p.1.toList.any Char.isDigit) = false := by decide
  rw [Option.eq_none_iff_forall_ne_some]
  intro t' ht'
  obtain ⟨sign, ds, n, name', rfl, -, hd, -⟩ := numbered?_eq_some_iff.1 ht'
  obtain ⟨c, hmem⟩ := List.exists_mem_of_ne_nil ds hd.1.1
  have hdigit := hd.1.2 c hmem
  have hlower : c.toLower = c := by
    have hle := (Text.isDigit_iff_le.1 hdigit).2
    refine dif_neg ?_
    rintro ⟨hA, -⟩
    exact absurd (Char.le_trans hA hle) (by decide)
  have hname : c ∈ name.toList := by
    rw [← hc, ← hlower]
    exact List.mem_map_of_mem (List.mem_append_right _ hmem)
  exact List.any_eq_false.1 (hletters _ h) c hname hdigit

/-- **Reading finds the thresholds that are written.** -/
theorem parse?_eq_some_iff : parse? cs = some t ↔ Spelled cs t := by
  rw [parse?, Option.orElse_eq_orElse, Option.orElse_eq_or, Option.or_eq_some_iff]
  constructor
  · rintro (h | ⟨-, h⟩)
    · obtain ⟨sign, ds, n, name, rfl, hs, hd, hn⟩ := numbered?_eq_some_iff.1 h
      exact .place hs hd hn
    · obtain ⟨name, hn, hc⟩ := named?_eq_some_iff.1 h
      exact .name hn hc
  · rintro (⟨hn, hc⟩ | ⟨hs, hd, hn⟩)
    · exact Or.inr ⟨numbered?_of_name hn hc, named?_eq_some_iff.2 ⟨_, hn, hc⟩⟩
    · exact Or.inl (numbered?_eq_some_iff.2 ⟨_, _, _, _, rfl, hs, hd, hn⟩)

theorem parse?_eq_none_iff : parse? cs = none ↔ ∀ t, ¬ Spelled cs t := by
  simp only [← parse?_eq_some_iff, Option.eq_none_iff_forall_ne_some, ne_eq]

theorem Spelled.ne_nil (h : Spelled cs t) : cs ≠ [] := by
  rintro rfl
  rw [← parse?_eq_some_iff] at h
  cases h

theorem admits_iff {level : Level} : t.admits level = true ↔
    ∃ most, t = .upTo most ∧ level.verbosity ≤ most.verbosity := by
  cases t with
  | off => simp [admits]
  | upTo most => simp [admits]

end Threshold

namespace Directive

/-- The text begins with a character that may open a directive. -/
def Opens (cs : List Char) : Prop := ∃ c ds, cs = c :: ds ∧ isOpening c = true

/-- The text does so behind blanks. -/
def OpensWord (cs : List Char) : Prop :=
  ∃ bs c ds, cs = bs ++ c :: ds ∧ (∀ b ∈ bs, Text.isBlank b = true) ∧
    Text.isBlank c = false ∧ isOpening c = true

/-- The text may be a target: neither a level nor a span begins in it. -/
def IsTarget (cs : List Char) : Prop := '=' ∉ cs ∧ '[' ∉ cs

/-- The text is a directive about no span. -/
inductive Spelled : List Char → Directive → Prop
  /-- A level is meant for all targets. -/
  | level {word : List Char} {t : Threshold} (hw : IsTarget word) (ho : OpensWord word)
      (ht : Threshold.Spelled word t) : Spelled word ⟨[], t⟩
  /-- A word that is no level is a target of which everything is shown. -/
  | target {word : List Char} (hw : IsTarget word) (ho : OpensWord word)
      (ht : ∀ t, ¬ Threshold.Spelled word t) : Spelled word ⟨word, .upTo .trace⟩
  /-- So is a target with no level behind the equals sign. -/
  | all {target : List Char} (hw : IsTarget target) (ho : Opens target) :
      Spelled (target ++ ['=']) ⟨target, .upTo .trace⟩
  /-- A target and its level. -/
  | both {target level : List Char} {t : Threshold} (hw : IsTarget target) (ho : Opens target)
      (ht : Threshold.Spelled level t) : Spelled (target ++ '=' :: level) ⟨target, t⟩

variable {cs word target rest : List Char} {d : Directive}

theorem any_head?_iff : cs.head?.any isOpening = true ↔ Opens cs := by
  cases cs with
  | nil => simp [Opens]
  | cons c cs => simp [Opens]

theorem any_head?_trim_iff : (Text.trim cs).head?.any isOpening = true ↔ OpensWord cs := by
  rw [Text.head?_trim, Option.any_eq_true]
  simp only [List.find?_eq_some_iff_append]
  constructor
  · rintro ⟨c, ⟨hc, bs, ds, rfl, hbs⟩, ho⟩
    exact ⟨bs, c, ds, rfl, by simpa using hbs, by simpa using hc, ho⟩
  · rintro ⟨bs, c, ds, rfl, hbs, hc, ho⟩
    exact ⟨c, ⟨by simpa using hc, bs, ds, rfl, by simpa using hbs⟩, ho⟩

/-- Without an equals sign all is in front of the level. -/
theorem spanless_word_iff (he : '=' ∉ word) : Spanless word ↔ '[' ∉ word := by
  have hall : ∀ c ∈ word, decide (c ≠ '=') = true := fun c hc =>
    decide_eq_true fun h => he (h ▸ hc)
  rw [Spanless, List.takeWhile_eq_self_iff.2 hall]

/-- What stands behind the equals sign is never about spans. -/
theorem spanless_target_iff (he : '=' ∉ target) :
    Spanless (target ++ '=' :: rest) ↔ '[' ∉ target := by
  have hall : ∀ c ∈ target, decide (c ≠ '=') = true := fun c hc =>
    decide_eq_true fun h => he (h ▸ hc)
  rw [Spanless, List.takeWhile_append_of_pos hall, List.takeWhile_cons_of_neg (by simp),
    List.append_nil]

theorem parse?_word (he : '=' ∉ word) :
    parse? word = if (Text.trim word).head?.any isOpening then some (ofWord word) else none := by
  rw [parse?, List.splitOn_eq_singleton he]

theorem parse?_target (he : '=' ∉ target) :
    parse? (target ++ '=' :: rest) =
      if target.head?.any isOpening then (level? rest).map fun t => ⟨target, t⟩ else none := by
  rw [parse?, List.splitOn_append_cons_self_of_not_mem he]
  have hrest : ['='].intercalate (rest.splitOn '=') = rest := List.intercalate_splitOn '='
  split
  · next h => exact absurd (List.cons.inj h).2 (List.splitOn_ne_nil '=' rest)
  · next h =>
    obtain ⟨rfl, rfl⟩ := List.cons.inj h
    rw [hrest]
  · next h => cases h

theorem spelled_ofWord (hw : IsTarget word) (ho : OpensWord word) :
    Spelled word (ofWord word) := by
  unfold ofWord
  cases ht : Threshold.parse? word with
  | none => exact .target hw ho (Threshold.parse?_eq_none_iff.1 ht)
  | some t => exact .level hw ho (Threshold.parse?_eq_some_iff.1 ht)

theorem spelled_of_level? {t : Threshold} (hw : IsTarget target) (ho : Opens target)
    (ht : level? rest = some t) : Spelled (target ++ '=' :: rest) ⟨target, t⟩ := by
  unfold level? at ht
  split_ifs at ht with hrest
  · cases ht
    subst hrest
    exact .all hw ho
  · exact .both hw ho (Threshold.parse?_eq_some_iff.1 ht)

/-- **Reading finds the directives that are written**, where none is about
    spans. -/
theorem spelled_iff : Spelled cs d ↔ Spanless cs ∧ parse? cs = some d := by
  constructor
  · intro h
    cases h with
    | level hw ho ht =>
      refine ⟨(spanless_word_iff hw.1).2 hw.2, ?_⟩
      rw [parse?_word hw.1, if_pos (any_head?_trim_iff.2 ho), ofWord,
        Threshold.parse?_eq_some_iff.2 ht]
    | target hw ho ht =>
      refine ⟨(spanless_word_iff hw.1).2 hw.2, ?_⟩
      rw [parse?_word hw.1, if_pos (any_head?_trim_iff.2 ho), ofWord,
        Threshold.parse?_eq_none_iff.2 ht]
    | all hw ho =>
      refine ⟨(spanless_target_iff hw.1).2 hw.2, ?_⟩
      rw [parse?_target hw.1, if_pos (any_head?_iff.2 ho)]
      rfl
    | both hw ho ht =>
      refine ⟨(spanless_target_iff hw.1).2 hw.2, ?_⟩
      rw [parse?_target hw.1, if_pos (any_head?_iff.2 ho), level?, if_neg ht.ne_nil,
        Threshold.parse?_eq_some_iff.2 ht]
      rfl
  · rintro ⟨hs, h⟩
    by_cases hmem : '=' ∈ cs
    · obtain ⟨target, rest, rfl, he⟩ := List.eq_append_cons_of_mem hmem
      rw [parse?_target he, Option.ite_none_right_eq_some, any_head?_iff,
        Option.map_eq_some_iff] at h
      obtain ⟨ho, t, ht, rfl⟩ := h
      exact spelled_of_level? ⟨he, (spanless_target_iff he).1 hs⟩ ho ht
    · rw [parse?_word hmem, Option.ite_none_right_eq_some, any_head?_trim_iff,
        Option.some_inj] at h
      obtain ⟨ho, rfl⟩ := h
      exact spelled_ofWord ⟨hmem, (spanless_word_iff hmem).1 hs⟩ ho

theorem Spelled.unique {d' : Directive} (h : Spelled cs d) (h' : Spelled cs d') : d = d' :=
  Option.some_inj.1 ((spelled_iff.1 h).2.symm.trans (spelled_iff.1 h').2)

end Directive

/-! ## Which directive decides -/

namespace Filter

/-- Among the directives that name a beginning of the target, `d` names the most
    of it, and it is the last one with its target. -/
structure Decides (ds : List Directive) (target : List Char) (d : Directive) : Prop where
  names : d.target <+: target
  longest : ∀ d' ∈ ds, d'.target <+: target → d'.target.length ≤ d.target.length
  last : (ds.filter fun d' => d'.target = d.target).getLast? = some d

variable {ds ds' : List Directive} {target : List Char} {d d₀ : Directive}

theorem Decides.mem (h : Decides ds target d) : d ∈ ds :=
  List.mem_of_mem_filter (List.mem_of_getLast? h.last)

theorem Decides.unique {d' : Directive} (h : Decides ds target d) (h' : Decides ds target d') :
    d = d' := by
  have hle := h.longest d' h'.mem h'.names
  have hge := h'.longest d h.mem h.names
  have hpre : d.target <+: d'.target := List.prefix_of_prefix_length_le h.names h'.names hge
  have ht : d.target = d'.target := hpre.eq_of_length (Nat.le_antisymm hge hle)
  have hl := h.last
  rw [ht] at hl
  exact Option.some_inj.1 (hl.symm.trans h'.last)

/-- A further directive decides if it names no less than all before it. -/
theorem decides_concat_self (h : d.target <+: target)
    (hl : ∀ d' ∈ ds, d'.target <+: target → d'.target.length ≤ d.target.length) :
    Decides (ds ++ [d]) target d where
  names := h
  longest := by
    intro d' hd' hn
    rcases List.mem_append.1 hd' with hd' | hd'
    · exact hl d' hd' hn
    · exact Nat.le_of_eq (congrArg (·.target.length) (List.mem_singleton.1 hd'))
  last := by
    rw [List.filter_append, List.filter_cons_of_pos (by simp), List.filter_nil]
    exact List.getLast?_concat

/-- A further directive changes nothing if it does not apply or names less. -/
theorem Decides.concat (h : Decides ds target d₀)
    (hl : d.target <+: target → d.target.length < d₀.target.length) :
    Decides (ds ++ [d]) target d₀ where
  names := h.names
  longest := by
    intro d' hd' hn
    rcases List.mem_append.1 hd' with hd' | hd'
    · exact h.longest d' hd' hn
    · rw [List.mem_singleton.1 hd'] at hn ⊢
      exact Nat.le_of_lt (hl hn)
  last := by
    have hne : d.target ≠ d₀.target := by
      intro he
      have hlt := hl (he ▸ h.names)
      rw [he] at hlt
      exact Nat.lt_irrefl _ hlt
    rw [List.filter_append, List.filter_cons_of_neg (by simpa using hne), List.filter_nil,
      List.append_nil]
    exact h.last

theorem appliesTo_iff : d.appliesTo target = true ↔ d.target <+: target :=
  List.isPrefixOf_iff_prefix

theorem deciding?_concat : deciding? ⟨ds ++ [d]⟩ target =
    if d.target <+: target then some (closer (deciding? ⟨ds⟩ target) d)
    else deciding? ⟨ds⟩ target := by
  rw [deciding?, List.filter_append, List.foldl_append]
  split_ifs with h
  · rw [List.filter_cons_of_pos (by simpa using appliesTo_iff.2 h)]
    rfl
  · rw [List.filter_cons_of_neg (by simpa using mt appliesTo_iff.1 h)]
    rfl

/-- Of the directive that decided and a further one that applies, the closer
    decides. -/
theorem Decides.closer (h₀ : Decides ds target d₀) (h : d.target <+: target) :
    Decides (ds ++ [d]) target (closer (some d₀) d) := by
  rw [Filter.closer]
  split_ifs with hlt
  · exact h₀.concat fun _ => hlt
  · exact decides_concat_self h fun d' hd' hn =>
      Nat.le_trans (h₀.longest d' hd' hn) (Nat.le_of_not_lt hlt)

/-- What is found decides, and where nothing is found no directive applies. -/
theorem deciding?_spec (ds : List Directive) (target : List Char) :
    (∀ d, deciding? ⟨ds⟩ target = some d → Decides ds target d) ∧
      (deciding? ⟨ds⟩ target = none → ∀ d ∈ ds, ¬ d.target <+: target) := by
  -- a later directive may override all before it, so the list grows at its end
  induction ds using List.reverseRecOn with
  | nil => exact ⟨nofun, nofun⟩
  | append_singleton ds d ih =>
    obtain ⟨hsome, hnone⟩ := ih
    rw [deciding?_concat]
    split_ifs with h
    · refine ⟨fun d' hd' => ?_, nofun⟩
      obtain rfl := Option.some.inj hd'
      cases hd : deciding? ⟨ds⟩ target with
      | none => exact decides_concat_self h fun e he hn => absurd hn (hnone hd e he)
      | some d₀ => exact (hsome d₀ hd).closer h
    · refine ⟨fun d' hd' => (hsome d' hd').concat fun hn => absurd hn h, fun hd e he => ?_⟩
      rcases List.mem_append.1 he with he | he
      · exact hnone hd e he
      · rwa [List.mem_singleton.1 he]

/-- **Which directive decides.** -/
theorem deciding?_eq_some_iff : deciding? ⟨ds⟩ target = some d ↔ Decides ds target d := by
  obtain ⟨hsome, hnone⟩ := deciding?_spec ds target
  refine ⟨hsome d, fun h => ?_⟩
  cases hd : deciding? ⟨ds⟩ target with
  | none => exact absurd h.names (hnone hd d h.mem)
  | some d' => rw [(hsome d' hd).unique h]

/-- With one directive a target their order is of no account. -/
theorem Decides.perm (h : Decides ds target d) (hp : ds.Perm ds')
    (hn : (ds.map Directive.target).Nodup) : Decides ds' target d where
  names := h.names
  longest := fun d' hd' => h.longest d' (hp.mem_iff.2 hd')
  last := by
    have hinj : ∀ d' ∈ ds, d'.target = d.target → d' = d := fun d' hd' ht =>
      List.inj_on_of_nodup_map hn hd' h.mem ht
    have hall : ∀ d' ∈ ds'.filter fun d' => d'.target = d.target, d' = d := fun d' hd' => by
      rw [List.mem_filter, ← hp.mem_iff, decide_eq_true_iff] at hd'
      exact hinj d' hd'.1 hd'.2
    have hmem : d ∈ ds'.filter fun d' => d'.target = d.target :=
      List.mem_filter.2 ⟨hp.mem_iff.1 h.mem, by simp⟩
    have hne := List.ne_nil_of_mem hmem
    rw [List.getLast?_eq_some_getLast hne, hall _ (List.getLast_mem hne)]

/-- A directive is of no account if a later one has its target. -/
theorem decides_drop_iff {as bs cs : List Directive} {p q : Directive}
    (ht : p.target = q.target) :
    Decides (as ++ p :: bs ++ q :: cs) target d ↔ Decides (as ++ bs ++ q :: cs) target d := by
  have hlast : ((as ++ p :: bs ++ q :: cs).filter fun d' => d'.target = d.target).getLast? =
      ((as ++ bs ++ q :: cs).filter fun d' => d'.target = d.target).getLast? := by
    simp only [List.filter_append]
    -- either `q` is kept behind `p`, or neither is kept
    by_cases hq : q.target = d.target
    · rw [List.filter_cons_of_pos (a := q) (by simpa using hq)]
      simp only [List.getLast?_append_of_ne_nil _ (List.cons_ne_nil _ _)]
    · rw [List.filter_cons_of_neg (a := p) (by simpa [ht] using hq)]
  constructor
  · rintro ⟨hn, hl, hd⟩
    refine ⟨hn, fun d' hd' => hl d' ?_, hlast ▸ hd⟩
    simp only [List.mem_append, List.mem_cons] at hd' ⊢
    tauto
  · rintro ⟨hn, hl, hd⟩
    refine ⟨hn, fun d' hd' => ?_, hlast ▸ hd⟩
    by_cases hp : d' = p
    · subst hp
      rw [ht]
      exact hl q (by simp)
    · refine hl d' ?_
      simp only [List.mem_append, List.mem_cons] at hd' ⊢
      tauto

/-! ## The test of a text -/

/-- The event passes the test of a text. -/
inductive Passes (e : Event) : Option String → Prop
  /-- Where there is no text everything up to `info` is shown. -/
  | unset (h : e.record.level.verbosity ≤ Level.info.verbosity) : Passes e none
  /-- So it is if a part is no directive, whatever the other parts say. -/
  | invalid {text : String} {part : List Char} (hp : part ∈ parts text)
      (hi : ∀ d, ¬ Directive.Spelled part d)
      (h : e.record.level.verbosity ≤ Level.info.verbosity) : Passes e (some text)
  /-- A text without parts lets errors pass alone. -/
  | empty {text : String} (hp : parts text = []) (h : e.record.level = .error) :
      Passes e (some text)
  /-- Else the level is no more verbose than that of the part that decides. -/
  | decided {text : String} {ds : List Directive} {d : Directive} {most : Level}
      (hp : List.Forall₂ Directive.Spelled (parts text) ds)
      (hd : Decides ds e.record.target.toList d) (ht : d.threshold = .upTo most)
      (h : e.record.level.verbosity ≤ most.verbosity) : Passes e (some text)

variable {e : Event} {text text' : String}

theorem admits_uniform (t : Threshold) (e : Event) :
    (uniform t).admits e = t.admits e.record.level := rfl

theorem admits_iff : admits ⟨ds⟩ e = true ↔
    ∃ d, Decides ds e.record.target.toList d ∧ d.threshold.admits e.record.level = true := by
  simp only [admits, ← deciding?_eq_some_iff]
  cases deciding? ⟨ds⟩ e.record.target.toList with
  | none => simp
  | some d => simp

/-- All parts are directives, or some part is none. -/
theorem forall₂_or_invalid (ps : List (List Char)) :
    (∃ ds, List.Forall₂ Directive.Spelled ps ds) ∨
      ∃ part ∈ ps, ∀ d, ¬ Directive.Spelled part d := by
  induction ps with
  | nil => exact Or.inl ⟨[], .nil⟩
  | cons p ps ih =>
    by_cases hp : ∃ d, Directive.Spelled p d
    · obtain ⟨d, hd⟩ := hp
      rcases ih with ⟨ds, hds⟩ | ⟨part, hpart, hi⟩
      · exact Or.inl ⟨d :: ds, .cons hd hds⟩
      · exact Or.inr ⟨part, List.mem_cons_of_mem p hpart, hi⟩
    · exact Or.inr ⟨p, List.mem_cons_self, not_exists.1 hp⟩

/-- Reading finds the directives of all parts, where none is about spans. -/
theorem forall₂_spelled_iff {ps : List (List Char)} : List.Forall₂ Directive.Spelled ps ds ↔
    (∀ p ∈ ps, Directive.Spanless p) ∧ ps.mapM Directive.parse? = some ds := by
  induction ps generalizing ds with
  | nil => simp [eq_comm]
  | cons p ps ih =>
    rw [List.forall₂_cons_left_iff]
    simp only [List.mapM_cons, Option.bind_eq_bind, Option.bind_eq_some_iff, Option.pure_def,
      Option.some_inj, ih, List.forall_mem_cons, Directive.spelled_iff]
    constructor
    · rintro ⟨d, ds, ⟨hp, hd⟩, ⟨hps, hds⟩, rfl⟩
      exact ⟨⟨hp, hps⟩, d, hd, ds, hds, rfl⟩
    · rintro ⟨⟨hp, hps⟩, d, hd, ds, hds, rfl⟩
      exact ⟨d, ds, ⟨hp, hd⟩, ⟨hps, hds⟩, rfl⟩

theorem forall₂_spelled_unique {ps : List (List Char)}
    (h : List.Forall₂ Directive.Spelled ps ds) (h' : List.Forall₂ Directive.Spelled ps ds') :
    ds = ds' :=
  Option.some_inj.1 ((forall₂_spelled_iff.1 h).2.symm.trans (forall₂_spelled_iff.1 h').2)

theorem exists_spelled_of_forall₂ {ps : List (List Char)} {part : List Char}
    (h : List.Forall₂ Directive.Spelled ps ds) (hp : part ∈ ps) :
    ∃ d, Directive.Spelled part d := by
  induction h with
  | nil => cases hp
  | cons hd _ ih =>
    rcases List.mem_cons.1 hp with rfl | hp
    · exact ⟨_, hd⟩
    · exact ih hp

theorem Spanless.of_parts (hs : Spanless (some text))
    (h : ∀ part ∈ parts text', part ∈ parts text) : Spanless (some text') := by
  intro t ht part hpart
  obtain rfl := Option.some.inj ht
  exact hs text rfl part (h part hpart)

theorem passes_none_iff :
    Passes e none ↔ e.record.level.verbosity ≤ Level.info.verbosity :=
  ⟨fun h => by cases h; assumption, .unset⟩

theorem passes_iff_of_invalid {part : List Char} (hp : part ∈ parts text)
    (hi : ∀ d, ¬ Directive.Spelled part d) :
    Passes e (some text) ↔ e.record.level.verbosity ≤ Level.info.verbosity := by
  refine ⟨fun h => ?_, .invalid hp hi⟩
  cases h with
  | invalid _ _ h => exact h
  | empty hnil _ => exact absurd hp (hnil ▸ List.not_mem_nil)
  | decided hall _ _ _ =>
    obtain ⟨d, hd⟩ := exists_spelled_of_forall₂ hall hp
    exact absurd hd (hi d)

theorem passes_iff_of_parts_eq_nil (hp : parts text = []) :
    Passes e (some text) ↔ e.record.level = .error := by
  refine ⟨fun h => ?_, .empty hp⟩
  cases h with
  | invalid hmem _ _ => exact absurd hmem (hp ▸ List.not_mem_nil)
  | empty _ h => exact h
  | decided hall hd _ _ =>
    rw [hp, List.forall₂_nil_left_iff] at hall
    exact absurd hd.mem (hall ▸ List.not_mem_nil)

theorem passes_iff_of_forall₂ (hp : List.Forall₂ Directive.Spelled (parts text) ds)
    (hne : parts text ≠ []) :
    Passes e (some text) ↔
      ∃ d, Decides ds e.record.target.toList d ∧ d.threshold.admits e.record.level = true := by
  constructor
  · intro h
    cases h with
    | invalid hmem hi _ =>
      obtain ⟨d, hd⟩ := exists_spelled_of_forall₂ hp hmem
      exact absurd hd (hi d)
    | empty hnil _ => exact absurd hnil hne
    | decided hp' hd ht h =>
      obtain rfl := forall₂_spelled_unique hp hp'
      exact ⟨_, hd, Threshold.admits_iff.2 ⟨_, ht, h⟩⟩
  · rintro ⟨d, hd, h⟩
    obtain ⟨most, ht, h⟩ := Threshold.admits_iff.1 h
    exact .decided hp hd ht h

/-- **The events that the filter of a text admits are those that pass**, where no
    part is about spans. -/
theorem admits_ofText?_iff {text? : Option String} (hs : Spanless text?) :
    (ofText? text?).admits e = true ↔ Passes e text? := by
  have husual : usual.admits e = true ↔ e.record.level.verbosity ≤ Level.info.verbosity := by
    rw [usual, admits_uniform, Threshold.admits, decide_eq_true_iff]
  cases text? with
  | none => rw [ofText?, Option.elim_none, husual, passes_none_iff]
  | some text =>
    rw [ofText?, Option.elim_some, ofText]
    rcases forall₂_or_invalid (parts text) with ⟨ds, hp⟩ | ⟨part, hpart, hi⟩
    · rw [(forall₂_spelled_iff.1 hp).2]
      cases ds with
      | nil =>
        rw [passes_iff_of_parts_eq_nil (List.forall₂_nil_right_iff.1 hp)]
        show (uniform (.upTo .error)).admits e = true ↔ _
        rw [admits_uniform, Threshold.admits, decide_eq_true_iff, Level.verbosity_le_error_iff]
      | cons d ds =>
        have hne : parts text ≠ [] := fun h => by rw [h] at hp; cases hp
        rw [passes_iff_of_forall₂ hp hne]
        exact admits_iff
    · have hnone : (parts text).mapM Directive.parse? = none := by
        refine Option.eq_none_iff_forall_ne_some.2 fun ds hds => ?_
        have hall := forall₂_spelled_iff.2 ⟨hs text rfl, hds⟩
        obtain ⟨d, hd⟩ := exists_spelled_of_forall₂ hall hpart
        exact hi d hd
      rw [passes_iff_of_invalid hpart hi, hnone]
      exact husual

/-- A part about spans is no directive of the kind that is read here. -/
theorem passes_iff_of_not_spanless {text? : Option String} (hs : ¬ Spanless text?) :
    Passes e text? ↔ e.record.level.verbosity ≤ Level.info.verbosity := by
  rw [Spanless] at hs
  push Not at hs
  obtain ⟨text, rfl, part, hpart, hp⟩ := hs
  exact passes_iff_of_invalid hpart fun d hd => hp (Directive.spelled_iff.1 hd).1

instance (e : Event) (text? : Option String) : Decidable (Passes e text?) :=
  decidable_of_iff (if Spanless text? then (ofText? text?).admits e = true
    else e.record.level.verbosity ≤ Level.info.verbosity) <| by
    split_ifs with hs
    · exact admits_ofText?_iff hs
    · exact (passes_iff_of_not_spanless hs).symm

/-- The parts of a text name pairwise different targets, so far as they are
    directives. -/
def Separate (text : String) : Prop :=
  ∀ ds, List.Forall₂ Directive.Spelled (parts text) ds → (ds.map Directive.target).Nodup

instance : DecidablePred Separate := fun text =>
  decidable_of_iff ((∀ part ∈ parts text, Directive.Spanless part) →
    ∀ ds ∈ (parts text).mapM Directive.parse?, (ds.map Directive.target).Nodup) <| by
    simp only [Separate, forall₂_spelled_iff, Option.mem_def, and_imp]
    exact forall_comm

/-- **Parts with pairwise different targets may stand in any order.** -/
theorem passes_of_perm (hp : (parts text).Perm (parts text')) (hs : Separate text) :
    Passes e (some text) ↔ Passes e (some text') := by
  rcases forall₂_or_invalid (parts text) with ⟨ds, hall⟩ | ⟨part, hpart, hi⟩
  · by_cases hnil : parts text = []
    · rw [passes_iff_of_parts_eq_nil hnil, passes_iff_of_parts_eq_nil]
      exact (hnil ▸ hp).nil_eq.symm
    · obtain ⟨ds', hall', hds⟩ := List.perm_comp_forall₂ hp.symm hall
      have hnil' : parts text' ≠ [] := fun h => hnil (h ▸ hp).eq_nil
      have hs' : (ds'.map Directive.target).Nodup := (hds.map _).nodup_iff.2 (hs ds hall)
      rw [passes_iff_of_forall₂ hall hnil, passes_iff_of_forall₂ hall' hnil']
      exact exists_congr fun d => and_congr_left fun _ =>
        ⟨fun h => h.perm hds.symm (hs ds hall), fun h => h.perm hds hs'⟩
  · rw [passes_iff_of_invalid hpart hi, passes_iff_of_invalid (hp.mem_iff.1 hpart) hi]

/-- **Of two parts with the same target the earlier one may be dropped.** -/
theorem passes_of_drop {as bs cs : List (List Char)} {p q : List Char} {d d' : Directive}
    (h : parts text = as ++ p :: bs ++ q :: cs) (h' : parts text' = as ++ bs ++ q :: cs)
    (hp : Directive.Spelled p d) (hq : Directive.Spelled q d') (ht : d.target = d'.target) :
    Passes e (some text) ↔ Passes e (some text') := by
  have hbad : ∀ part, (part ∈ as ∨ part ∈ bs ∨ part ∈ cs) → (∀ d, ¬ Directive.Spelled part d) →
      (Passes e (some text) ↔ Passes e (some text')) := by
    intro part hpart hi
    have hmem : part ∈ parts text ∧ part ∈ parts text' := by
      simp only [h, h', List.mem_append, List.mem_cons]
      tauto
    rw [passes_iff_of_invalid hmem.1 hi, passes_iff_of_invalid hmem.2 hi]
  rcases forall₂_or_invalid as with ⟨das, has⟩ | ⟨part, hpart, hi⟩
  · rcases forall₂_or_invalid bs with ⟨dbs, hbs⟩ | ⟨part, hpart, hi⟩
    · rcases forall₂_or_invalid cs with ⟨dcs, hcs⟩ | ⟨part, hpart, hi⟩
      · have hall : List.Forall₂ Directive.Spelled (parts text) (das ++ d :: dbs ++ d' :: dcs) := by
          rw [h]
          exact List.rel_append (List.rel_append has (.cons hp hbs)) (.cons hq hcs)
        have hall' : List.Forall₂ Directive.Spelled (parts text') (das ++ dbs ++ d' :: dcs) := by
          rw [h']
          exact List.rel_append (List.rel_append has hbs) (.cons hq hcs)
        rw [passes_iff_of_forall₂ hall (by simp [h]), passes_iff_of_forall₂ hall' (by simp [h'])]
        exact exists_congr fun d => and_congr_left fun _ => decides_drop_iff ht
      · exact hbad part (Or.inr (Or.inr hpart)) hi
    · exact hbad part (Or.inr (Or.inl hpart)) hi
  · exact hbad part (Or.inl hpart) hi

end Filter

end AddressGate
