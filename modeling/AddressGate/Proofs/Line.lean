/-
  Log lines cannot be forged.

  * `Record.Regular r`: the fixed parts of a record hold nothing that would blur
    its parts; `Event.record_regular`: those of every event are regular,
    whatever the values of its fields;
  * `Value.shown_append_inj`, `Record.fields_inj` and `Record.heading_inj` find
    the parts of a line again, from the values up;
  * `Record.plainLine_inj` puts them together: regular records are told apart by
    their lines;
  * `Event.plainLine_unforgeable`: lines hold only printable characters, and a
    log determines its events.
-/
import AddressGate.Console.Line
import AddressGate.Proofs.Quoted

namespace AddressGate

/-! ## Cutting texts -/

namespace Text

/-- The first separator cuts a text in one way. -/
theorem append_sep_inj {sep : Char} {p q cs ds : List Char} (hp : sep ∉ p) (hq : sep ∉ q)
    (h : p ++ sep :: cs = q ++ sep :: ds) : p = q ∧ cs = ds := by
  have hpieces := congrArg (List.splitOn sep) h
  rw [List.splitOn_append_cons_self_of_not_mem hp, List.splitOn_append_cons_self_of_not_mem hq]
    at hpieces
  obtain ⟨rfl, -⟩ := List.cons.inj hpieces
  simpa using h

/-- The last separator cuts a text in one way. -/
theorem append_sep_inj_last {sep : Char} {p q cs ds : List Char} (hc : sep ∉ cs) (hd : sep ∉ ds)
    (h : p ++ sep :: cs = q ++ sep :: ds) : p = q ∧ cs = ds := by
  have hrev := congrArg List.reverse h
  simp only [List.reverse_append, List.reverse_cons, List.append_assoc, List.singleton_append]
    at hrev
  obtain ⟨hcd, hpq⟩ := append_sep_inj (by simpa using hc) (by simpa using hd) hrev
  exact ⟨List.reverse_inj.1 hpq, List.reverse_inj.1 hcd⟩

end Text

/-! ## Values -/

namespace Value

/-- What stands behind a value: nothing, or a space and more. -/
def Ends (cs : List Char) : Prop := cs = [] ∨ cs.head? = some ' '

theorem isDigit_of_mem_shown_count {n : Nat} {c : Char} (hc : c ∈ (count n).shown) :
    c.isDigit = true :=
  Nat.isDigit_of_mem_toDigits (by omega) (by omega) hc

theorem takeWhile_shown_count (n : Nat) {cs : List Char} (h : Ends cs) :
    ((count n).shown ++ cs).takeWhile Char.isDigit = Nat.toDigits 10 n := by
  rw [List.takeWhile_append_of_pos fun c hc => isDigit_of_mem_shown_count hc, shown]
  rcases h with rfl | h
  · simp
  · cases cs with
    | nil => cases h
    | cons c cs =>
      obtain rfl := Option.some.inj h
      rw [List.takeWhile_cons_of_neg (by decide), List.append_nil]

/-- A number does not begin with a quote. -/
theorem shown_count_append_ne (n : Nat) (cs ds : List Char) :
    (count n).shown ++ cs ≠ '\"' :: ds := by
  intro h
  cases hn : (count n).shown with
  | nil => exact Nat.toDigits_ne_nil hn
  | cons c es =>
    rw [hn] at h
    obtain ⟨rfl, -⟩ := List.cons.inj h
    have hdigit : ('\"').isDigit = true :=
      isDigit_of_mem_shown_count (n := n) (hn ▸ List.mem_cons_self)
    exact absurd hdigit (by decide)

/-- **A value can be told from what stands behind it.** -/
theorem shown_append_inj {v w : Value} {cs ds : List Char} (hc : Ends cs) (hd : Ends ds)
    (h : v.shown ++ cs = w.shown ++ ds) : v = w ∧ cs = ds := by
  cases v with
  | text s =>
    cases w with
    | text t =>
      obtain ⟨hst, rfl⟩ := Text.quoted_append_inj h
      exact ⟨by rw [String.toList_inj.1 hst], rfl⟩
    | count n => exact absurd h.symm (shown_count_append_ne n _ _)
  | count m =>
    cases w with
    | text t => exact absurd h (shown_count_append_ne m _ _)
    | count n =>
      have hdigits := takeWhile_shown_count m hc
      rw [h, takeWhile_shown_count n hd] at hdigits
      have hn := Text.number?_toDigits (by omega : 1 < 10) (by omega) n
      rw [hdigits, Text.number?_toDigits (by omega) (by omega)] at hn
      obtain rfl := Option.some.inj hn
      exact ⟨rfl, List.append_cancel_left h⟩

theorem isPrintable_shown (v : Value) : ∀ c ∈ v.shown, Text.IsPrintable c := by
  cases v with
  | text s => exact Text.isPrintable_quoted s.toList
  | count n => exact Text.isPrintable_of_mem_toDigits (by omega) (by omega) n

end Value

/-! ## Records -/

theorem Level.length_column (l : Level) : l.column.length = 5 := by cases l <;> rfl

theorem Level.column_injective : Function.Injective Level.column := by
  intro l m h
  cases l <;> cases m <;> first | rfl | exact absurd h (by decide)

namespace Record

/-- The fixed parts of a record are printable, and hold no character that ends
    them. -/
structure Regular (r : Record) : Prop where
  target : ∀ c ∈ r.target.toList, Text.IsPrintable c ∧ c ≠ ' ' ∧ c ≠ '='
  message : ∀ c ∈ r.message.toList, Text.IsPrintable c ∧ c ≠ '='
  names : ∀ name ∈ r.fields.map Prod.fst, ∀ c ∈ name.toList, Text.IsPrintable c ∧ c ≠ ' ' ∧ c ≠ '='

/-- The test whether a record is regular. -/
def isRegular (r : Record) : Bool :=
  (r.target.toList.all fun c => Text.IsPrintable c ∧ c ≠ ' ' ∧ c ≠ '=') &&
    (r.message.toList.all fun c => Text.IsPrintable c ∧ c ≠ '=') &&
    (r.fields.map Prod.fst).all fun name =>
      name.toList.all fun c => Text.IsPrintable c ∧ c ≠ ' ' ∧ c ≠ '='

theorem isRegular_iff {r : Record} : r.isRegular = true ↔ r.Regular := by
  simp only [isRegular, Bool.and_eq_true, List.all_eq_true, decide_eq_true_iff, and_assoc]
  exact ⟨fun ⟨ht, hm, hn⟩ => ⟨ht, hm, hn⟩, fun h => ⟨h.target, h.message, h.names⟩⟩

/-- What stands before the fields. -/
def heading (r : Record) : List Char :=
  r.level.column ++ ' ' :: r.target.toList ++ ": ".toList ++ r.message.toList

theorem plainLine_eq (r : Record) : r.plainLine = r.heading ++ r.fields.flatMap plainField := rfl

theorem ends_fields (fs : List (String × Value)) : Value.Ends (fs.flatMap plainField) := by
  cases fs with
  | nil => exact Or.inl rfl
  | cons f fs => exact Or.inr rfl

/-- **Fields can be read off what is shown of them.** -/
theorem fields_inj {fs gs : List (String × Value)}
    (hf : ∀ name ∈ fs.map Prod.fst, '=' ∉ name.toList)
    (hg : ∀ name ∈ gs.map Prod.fst, '=' ∉ name.toList)
    (h : fs.flatMap plainField = gs.flatMap plainField) : fs = gs := by
  induction fs generalizing gs with
  | nil =>
    cases gs with
    | nil => rfl
    | cons g gs => cases h
  | cons f fs ih =>
    cases gs with
    | nil => cases h
    | cons g gs =>
      simp only [List.map_cons, List.forall_mem_cons] at hf hg
      simp only [List.flatMap_cons, plainField, List.cons_append, List.append_assoc,
        List.cons.injEq, true_and] at h
      obtain ⟨hname, hvalue⟩ := Text.append_sep_inj hf.1 hg.1 h
      obtain ⟨hvalue, hrest⟩ := Value.shown_append_inj (ends_fields fs) (ends_fields gs) hvalue
      rw [Prod.ext (String.toList_inj.1 hname) hvalue, ih hf.2 hg.2 hrest]

variable {r s : Record}

namespace Regular

theorem eq_not_mem_heading (h : r.Regular) : '=' ∉ r.heading := by
  have hlevel : '=' ∉ r.level.column := by cases r.level <;> decide
  intro hmem
  simp only [heading, List.mem_append, List.mem_cons] at hmem
  rcases hmem with ((hm | hm | hm) | hm) | hm
  · exact hlevel hm
  · exact absurd hm (by decide)
  · exact (h.target _ hm).2.2 rfl
  · exact absurd hm (by decide)
  · exact (h.message _ hm).2 rfl

theorem eq_not_mem_names (h : r.Regular) : ∀ name ∈ r.fields.map Prod.fst, '=' ∉ name.toList :=
  fun name hn hm => (h.names name hn _ hm).2.2 rfl

theorem space_not_mem_names (h : r.Regular) : ∀ name ∈ r.fields.map Prod.fst, ' ' ∉ name.toList :=
  fun name hn hm => (h.names name hn _ hm).2.1 rfl

end Regular

/-- The level, the target and the message can be read off the heading. -/
theorem heading_inj (hr : r.Regular) (hs : s.Regular) (h : r.heading = s.heading) :
    r.level = s.level ∧ r.target = s.target ∧ r.message = s.message := by
  have hspace : ∀ {q : Record}, q.Regular → ' ' ∉ q.target.toList ++ [':'] := by
    intro q hq hm
    rcases List.mem_append.1 hm with hm | hm
    · exact (hq.target _ hm).2.1 rfl
    · exact absurd hm (by decide)
  have hform : ∀ q : Record, q.heading =
      q.level.column ++ ' ' :: (q.target.toList ++ [':'] ++ ' ' :: q.message.toList) := by
    intro q
    simp [heading, show ": ".toList = [':', ' '] from rfl]
  rw [hform, hform] at h
  obtain ⟨hlevel, h⟩ := List.append_inj h (by rw [Level.length_column, Level.length_column])
  obtain ⟨htarget, hmessage⟩ :=
    Text.append_sep_inj (hspace hr) (hspace hs) (List.cons.inj h).2
  exact ⟨Level.column_injective hlevel, String.toList_inj.1 (List.append_cancel_right htarget),
    String.toList_inj.1 hmessage⟩

/-- The first equals sign stands behind the name of a field, so what stands
    before the field can be told from the name. -/
theorem eq_of_append_plainField {a b cs ds : List Char} {f g : String × Value} (ha : '=' ∉ a)
    (hb : '=' ∉ b) (hf : '=' ∉ f.1.toList) (hg : '=' ∉ g.1.toList) (hf' : ' ' ∉ f.1.toList)
    (hg' : ' ' ∉ g.1.toList) (h : a ++ (plainField f ++ cs) = b ++ (plainField g ++ ds)) :
    a = b := by
  have hform : ∀ (a cs : List Char) (f : String × Value), a ++ (plainField f ++ cs) =
      (a ++ ' ' :: f.1.toList) ++ '=' :: (f.2.shown ++ cs) := by
    intro a cs f
    simp [plainField]
  have hname : ∀ {a : List Char} {f : String × Value}, '=' ∉ a → '=' ∉ f.1.toList →
      '=' ∉ a ++ ' ' :: f.1.toList := by
    intro a f ha hf
    simpa using ⟨ha, hf⟩
  rw [hform, hform] at h
  exact (Text.append_sep_inj_last hf' hg' (Text.append_sep_inj (hname ha hf) (hname hb hg) h).1).1

theorem fields_eq_nil_of_plainLine (hr : r.Regular) (h : r.plainLine = s.plainLine)
    (hf : r.fields = []) : s.fields = [] := by
  cases hs : s.fields with
  | nil => rfl
  | cons f fs =>
    rw [plainLine_eq, plainLine_eq, hf, hs, List.flatMap_nil, List.append_nil] at h
    exact absurd (h ▸ by simp [plainField]) hr.eq_not_mem_heading

theorem heading_eq_of_plainLine (hr : r.Regular) (hs : s.Regular)
    (h : r.plainLine = s.plainLine) : r.heading = s.heading := by
  have hr' := hr.eq_not_mem_names
  have hr'' := hr.space_not_mem_names
  have hs' := hs.eq_not_mem_names
  have hs'' := hs.space_not_mem_names
  cases hf : r.fields with
  | nil =>
    have hf' := fields_eq_nil_of_plainLine hr h hf
    simpa [plainLine_eq, hf, hf'] using h
  | cons f fs =>
    cases hf' : s.fields with
    | nil => rw [fields_eq_nil_of_plainLine hs h.symm hf'] at hf; cases hf
    | cons g gs =>
      rw [hf, List.map_cons, List.forall_mem_cons] at hr' hr''
      rw [hf', List.map_cons, List.forall_mem_cons] at hs' hs''
      rw [plainLine_eq, plainLine_eq, hf, hf', List.flatMap_cons, List.flatMap_cons] at h
      exact eq_of_append_plainField hr.eq_not_mem_heading hs.eq_not_mem_heading hr'.1 hs'.1
        hr''.1 hs''.1 h

/-- **Regular records are told apart by their lines.** -/
theorem plainLine_inj (hr : r.Regular) (hs : s.Regular) (h : r.plainLine = s.plainLine) :
    r = s := by
  have hheading := heading_eq_of_plainLine hr hs h
  obtain ⟨hlevel, htarget, hmessage⟩ := heading_inj hr hs hheading
  rw [plainLine_eq, plainLine_eq, hheading] at h
  have hfields := fields_inj hr.eq_not_mem_names hs.eq_not_mem_names (List.append_cancel_left h)
  cases r
  cases s
  simp_all

theorem isPrintable_plainLine (hr : r.Regular) : ∀ c ∈ r.plainLine, Text.IsPrintable c := by
  have hlevel : ∀ c ∈ r.level.column, Text.IsPrintable c := by
    cases r.level <;> exact Text.isPrintable_of_all rfl
  intro c hc
  simp only [plainLine, List.mem_append, List.mem_cons, List.mem_flatMap, plainField] at hc
  rcases hc with (((hc | rfl | hc) | hc) | hc) | ⟨f, hf, (rfl | hc) | rfl | hc⟩
  · exact hlevel c hc
  · decide
  · exact (hr.target c hc).1
  · exact Text.isPrintable_of_all rfl c hc
  · exact (hr.message c hc).1
  · decide
  · exact (hr.names f.1 (List.mem_map_of_mem hf) c hc).1
  · decide
  · exact f.2.isPrintable_shown c hc

end Record

/-! ## Events -/

namespace Event

/-- The event of the same kind whose texts are empty and whose numbers are 0. -/
def blank : Event → Event
  | consoleReady => consoleReady
  | unreadable (.malformedPattern _) => unreadable (.malformedPattern "")
  | unreadable (.malformedAddress _) => unreadable (.malformedAddress "")
  | malformedEntry _ _ => malformedEntry .blacklist ""
  | verbatimEntry _ _ => verbatimEntry .blacklist ""
  | rulesLoaded _ _ => rulesLoaded 0 0
  | requestDenied (.blacklisted _) => requestDenied (.blacklisted "")
  | requestDenied (.notWhitelisted _) => requestDenied (.notWhitelisted "")
  | requestDenied .unknownRemote => requestDenied .unknownRemote

/-- The events without data, one of each kind. -/
def blanks : List Event :=
  [consoleReady, unreadable (.malformedPattern ""), unreadable (.malformedAddress ""),
    malformedEntry .blacklist "", verbatimEntry .blacklist "", rulesLoaded 0 0,
    requestDenied (.blacklisted ""), requestDenied (.notWhitelisted ""),
    requestDenied .unknownRemote]

theorem blank_mem (e : Event) : e.blank ∈ blanks := by
  rcases e with _ | (_ | _) | _ | _ | _ | (_ | _ | _) <;> simp [blank, blanks]

/-- The data of an event stands in the values of its fields alone. -/
theorem record_blank (e : Event) : e.blank.record.target = e.record.target ∧
    e.blank.record.message = e.record.message ∧
    e.blank.record.fields.map Prod.fst = e.record.fields.map Prod.fst := by
  rcases e with _ | (_ | _) | _ | _ | _ | (_ | _ | _) <;> exact ⟨rfl, rfl, rfl⟩

theorem record_regular (e : Event) : e.record.Regular := by
  have hblanks : ∀ b ∈ blanks, b.record.isRegular = true := by decide +kernel
  have hblank := Record.isRegular_iff.1 (hblanks e.blank e.blank_mem)
  obtain ⟨htarget, hmessage, hnames⟩ := e.record_blank
  exact ⟨htarget ▸ hblank.target, hmessage ▸ hblank.message, hnames ▸ hblank.names⟩

/-- Events are told apart by what a log shows of them. -/
theorem record_injective : Function.Injective record := by
  intro e e' h
  -- the messages and the names of the fields tell the kinds apart
  rcases e with _ | (_ | _) | _ | _ | _ | (_ | _ | _) <;>
    rcases e' with _ | (_ | _) | _ | _ | _ | (_ | _ | _) <;>
    simp_all only [record, denialFields, Record.mk.injEq, List.cons.injEq, Prod.mk.injEq,
      Value.text.injEq, Value.count.injEq, reduceCtorEq, and_true, true_and, and_false, false_and,
      String.reduceEq]
  all_goals rw [ListName.text_injective h.1]

theorem plainLine_injective : Function.Injective fun e : Event => e.record.plainLine :=
  fun e e' h => record_injective (Record.plainLine_inj e.record_regular e'.record_regular h)

theorem newline_not_mem_plainLine (e : Event) : '\n' ∉ e.record.plainLine := fun h =>
  (Record.isPrintable_plainLine e.record_regular '\n' h).1 (by decide)

/-- Each line of a log ends at the first line break behind it. -/
theorem flatMap_plainLine_injective :
    Function.Injective fun es : List Event => es.flatMap fun e => e.record.plainLine ++ ['\n'] := by
  intro es es' h
  induction es generalizing es' with
  | nil =>
    cases es' with
    | nil => rfl
    | cons e' es' => simp at h
  | cons e es ih =>
    cases es' with
    | nil => simp at h
    | cons e' es' =>
      simp only [List.flatMap_cons, List.append_assoc, List.singleton_append] at h
      obtain ⟨hline, hrest⟩ := Text.append_sep_inj e.newline_not_mem_plainLine
        e'.newline_not_mem_plainLine h
      rw [plainLine_injective hline, ih hrest]

/-- **Log lines cannot be forged.**  Whatever texts an event holds, its line
    holds no control character and no line or paragraph separator, so no line
    break and no escape.  A line determines its event, with all that a log shows of
    it, and a whole log, line by line, determines the events that it shows. -/
theorem plainLine_unforgeable :
    (∀ (e : Event), ∀ c ∈ e.record.plainLine, ¬ c.toNat < 0x20 ∧
      ¬ (0x7F ≤ c.toNat ∧ c.toNat ≤ 0x9F) ∧ c.toNat ≠ 0x2028 ∧ c.toNat ≠ 0x2029) ∧
    (Function.Injective fun e : Event => e.record) ∧
    (Function.Injective fun e : Event => e.record.plainLine) ∧
    Function.Injective fun es : List Event => es.flatMap fun e => e.record.plainLine ++ ['\n'] :=
  ⟨fun e => Record.isPrintable_plainLine e.record_regular, record_injective, plainLine_injective,
    flatMap_plainLine_injective⟩

end Event

end AddressGate
