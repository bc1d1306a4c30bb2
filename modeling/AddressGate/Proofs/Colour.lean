/-
  The two styles of lines show the same.

  * `withoutSequences cs`: the text without its escape sequences, dropped from
    the left to the right;
  * `Shows cs ds`: wherever `cs` stands, dropping leaves `ds` of it; the parts of
    a line in colours show the parts of the plain line
    (`shows_painted`, `Record.shows_prettyField`, `Record.shows_prettyLine`);
  * `Record.count_prettyLine` counts the escape characters, none of which comes
    from a value;
  * `Event.prettyLine_agrees`: both for every event.
-/
import AddressGate.Proofs.Line

namespace AddressGate

namespace Text

/-! ## Dropping escape sequences -/

/-- What stands behind the sequence `ESC [ digits m` at the beginning of a text,
    if there is one. -/
def behindSequence? : List Char → Option (List Char)
  | '\x1b' :: '[' :: cs =>
    match cs.dropWhile Char.isDigit with
    | 'm' :: ds => some ds
    | _ => none
  | _ => none

theorem length_behindSequence? {cs ds : List Char} (h : behindSequence? cs = some ds) :
    ds.length < cs.length := by
  unfold behindSequence? at h
  split at h
  · next cs =>
    split at h
    · next es he =>
      obtain rfl := Option.some.inj h
      have hsuffix := (List.dropWhile_suffix (l := cs) Char.isDigit).length_le
      rw [he] at hsuffix
      simp only [List.length_cons] at hsuffix ⊢
      omega
    · cases h
  · cases h

/-- The text without its escape sequences. -/
def withoutSequences (cs : List Char) : List Char :=
  match _h : behindSequence? cs with
  | some ds => withoutSequences ds
  | none =>
    match cs with
    | [] => []
    | c :: cs => c :: withoutSequences cs
termination_by cs.length
decreasing_by
  · exact length_behindSequence? ‹_›
  · simp

theorem withoutSequences_of_sequence {cs ds : List Char} (h : behindSequence? cs = some ds) :
    withoutSequences cs = withoutSequences ds := by
  rw [withoutSequences]
  split
  · next h' => rw [h] at h'; rw [Option.some.inj h']
  · next h' => rw [h] at h'; cases h'

theorem withoutSequences_cons {c : Char} (hc : c ≠ '\x1b') (cs : List Char) :
    withoutSequences (c :: cs) = c :: withoutSequences cs := by
  have hnone : behindSequence? (c :: cs) = none := by
    unfold behindSequence?
    split
    · next h => exact absurd (List.cons.inj h).1 hc
    · rfl
  rw [withoutSequences]
  split
  · next h => rw [hnone] at h; cases h
  · rfl

theorem withoutSequences_nil : withoutSequences [] = [] := by
  rw [withoutSequences]
  rfl

/-! ## What is shown -/

/-- Without its sequences the text is `ds`, whatever follows it. -/
def Shows (cs ds : List Char) : Prop :=
  ∀ es, withoutSequences (cs ++ es) = ds ++ withoutSequences es

variable {cs ds cs' ds' : List Char}

theorem Shows.append (h : Shows cs ds) (h' : Shows cs' ds') : Shows (cs ++ cs') (ds ++ ds') := by
  intro es
  rw [List.append_assoc, h, h', List.append_assoc]

theorem Shows.withoutSequences_eq (h : Shows cs ds) : withoutSequences cs = ds := by
  have hnil := h []
  rwa [List.append_nil, withoutSequences_nil, List.append_nil] at hnil

/-- A text without escape characters shows itself. -/
theorem shows_self (h : '\x1b' ∉ cs) : Shows cs cs := by
  intro es
  induction cs with
  | nil => rfl
  | cons c cs ih =>
    rw [List.mem_cons, not_or] at h
    rw [List.cons_append, withoutSequences_cons (Ne.symm h.1), ih h.2]
    rfl

theorem shows_sequence (n : Nat) : Shows (Record.sequence n) [] := by
  intro es
  have hdigits : ∀ c ∈ Nat.toDigits 10 n, c.isDigit = true := fun c hc =>
    Nat.isDigit_of_mem_toDigits (by omega) (by omega) hc
  refine withoutSequences_of_sequence ?_
  simp only [Record.sequence, List.cons_append, List.append_assoc, behindSequence?]
  rw [List.dropWhile_append_of_pos hdigits]
  rfl

/-- **Painted text shows as it is.** -/
theorem shows_painted (n : Nat) (h : '\x1b' ∉ cs) : Shows (Record.painted n cs) cs := by
  have hall := ((shows_sequence n).append (shows_self h)).append (shows_sequence 0)
  rwa [List.nil_append, List.append_nil] at hall

theorem shows_flatMap {α : Type} {f g : α → List Char} {xs : List α}
    (h : ∀ x ∈ xs, Shows (f x) (g x)) : Shows (xs.flatMap f) (xs.flatMap g) := by
  induction xs with
  | nil => exact fun _ => rfl
  | cons x xs ih =>
    rw [List.flatMap_cons, List.flatMap_cons]
    rw [List.forall_mem_cons] at h
    exact h.1.append (ih h.2)

theorem escape_not_mem_of_isPrintable (h : ∀ c ∈ cs, IsPrintable c) : '\x1b' ∉ cs := fun hc =>
  (h _ hc).1 (by decide)

end Text

/-! ## Lines -/

namespace Record

open Text

variable {r : Record}

namespace Regular

theorem escape_not_mem_target (h : r.Regular) : '\x1b' ∉ r.target.toList :=
  escape_not_mem_of_isPrintable fun c hc => (h.target c hc).1

theorem escape_not_mem_message (h : r.Regular) : '\x1b' ∉ r.message.toList :=
  escape_not_mem_of_isPrintable fun c hc => (h.message c hc).1

theorem escape_not_mem_name (h : r.Regular) {f : String × Value} (hf : f ∈ r.fields) :
    '\x1b' ∉ f.1.toList :=
  escape_not_mem_of_isPrintable fun c hc => (h.names f.1 (List.mem_map_of_mem hf) c hc).1

end Regular

theorem escape_not_mem_column (l : Level) : '\x1b' ∉ l.column := by cases l <;> decide

theorem escape_not_mem_shown (v : Value) : '\x1b' ∉ v.shown :=
  escape_not_mem_of_isPrintable v.isPrintable_shown

theorem shows_prettyField {f : String × Value} (hf : '\x1b' ∉ f.1.toList) :
    Shows (prettyField f) (plainField f) := by
  have hspace : Shows [' '] [' '] := shows_self (by decide)
  have hall := ((hspace.append (shows_painted italic hf)).append
    (shows_painted dimmed (by decide : '\x1b' ∉ ['=']))).append
    (shows_self (escape_not_mem_shown f.2))
  simpa [prettyField, plainField] using hall

/-- **A line in colours shows the time and the plain line.** -/
theorem shows_prettyLine (hr : r.Regular) {time : String} (ht : '\x1b' ∉ time.toList) :
    Shows (r.prettyLine time) (time.toList ++ ' ' :: r.plainLine) := by
  have hspace : Shows [' '] [' '] := shows_self (by decide)
  have htarget : '\x1b' ∉ r.target.toList ++ [':'] := by
    simpa using hr.escape_not_mem_target
  have hhead := ((((shows_painted dimmed ht).append hspace).append
    (shows_painted (colour r.level) (escape_not_mem_column r.level))).append hspace).append
    (shows_painted dimmed htarget)
  have hmessage := hspace.append (shows_self hr.escape_not_mem_message)
  have hfields : Shows (r.fields.flatMap prettyField) (r.fields.flatMap plainField) :=
    shows_flatMap fun f hf => shows_prettyField (hr.escape_not_mem_name hf)
  have hall := (hhead.append hmessage).append hfields
  simpa [prettyLine, plainLine, show ": ".toList = [':', ' '] from rfl] using hall

/-! ## Escape characters -/

theorem count_painted (n : Nat) {cs : List Char} (h : '\x1b' ∉ cs) :
    (painted n cs).count '\x1b' = 2 := by
  have hsequence : ∀ n, (sequence n).count '\x1b' = 1 := by
    intro n
    have hdigits : '\x1b' ∉ Nat.toDigits 10 n :=
      escape_not_mem_of_isPrintable (isPrintable_of_mem_toDigits (by omega) (by omega) n)
    simp [sequence, List.count_eq_zero_of_not_mem hdigits]
  rw [painted, List.count_append, List.count_append, hsequence, hsequence,
    List.count_eq_zero_of_not_mem h]

theorem count_prettyField {f : String × Value} (hf : '\x1b' ∉ f.1.toList) :
    (prettyField f).count '\x1b' = 4 := by
  rw [prettyField]
  simp [count_painted _ hf, count_painted dimmed (by decide : '\x1b' ∉ ['=']),
    List.count_eq_zero_of_not_mem (escape_not_mem_shown f.2)]

theorem count_prettyFields {fs : List (String × Value)} (hf : ∀ f ∈ fs, '\x1b' ∉ f.1.toList) :
    (fs.flatMap prettyField).count '\x1b' = 4 * fs.length := by
  induction fs with
  | nil => rfl
  | cons f fs ih =>
    rw [List.forall_mem_cons] at hf
    rw [List.flatMap_cons, List.count_append, count_prettyField hf.1, ih hf.2, List.length_cons]
    omega

/-- The escape characters of a line in colours are those of its own sequences. -/
theorem count_prettyLine (hr : r.Regular) {time : String} (ht : '\x1b' ∉ time.toList) :
    (r.prettyLine time).count '\x1b' = 6 + 4 * r.fields.length := by
  have htarget : '\x1b' ∉ r.target.toList ++ [':'] := by
    simpa using hr.escape_not_mem_target
  have hspace : ∀ cs : List Char, (' ' :: cs).count '\x1b' = cs.count '\x1b' := fun cs =>
    List.count_cons_of_ne (by decide)
  rw [prettyLine]
  simp only [List.count_append, hspace, count_painted _ ht,
    count_painted _ (escape_not_mem_column r.level), count_painted _ htarget,
    List.count_eq_zero_of_not_mem hr.escape_not_mem_message,
    count_prettyFields fun f hf => hr.escape_not_mem_name hf]

end Record

/-- **The two styles agree on every event.**  Without its escape sequences a line
    in colours is the time, a space, and the plain line.  It has three pairs of
    sequences and two more for each field, and no escape character comes from a
    value. -/
theorem Event.prettyLine_agrees (time : String) (ht : '\x1b' ∉ time.toList) (e : Event) :
    Text.withoutSequences (e.record.prettyLine time) =
      time.toList ++ ' ' :: e.record.plainLine ∧
    (e.record.prettyLine time).count '\x1b' = 6 + 4 * e.record.fields.length ∧
    ∀ f ∈ e.record.fields, '\x1b' ∉ f.2.shown :=
  ⟨(Record.shows_prettyLine e.record_regular ht).withoutSequences_eq,
    Record.count_prettyLine e.record_regular ht, fun f _ => Record.escape_not_mem_shown f.2⟩

/-- A remote text that ends with the beginning of a sequence. -/
theorem Event.prettyLine_agrees_escape :
    '\x1b' ∉ "14:32:01.234".toList ∧
    Text.withoutSequences ((Event.requestDenied
        (.blacklisted "\x1b[31")).record.prettyLine "14:32:01.234") =
      ("14:32:01.234 DEBUG goodies::web::request_rules: Request denied" ++
        " remote=\"\\u\x7b1b\x7d[31\" reason=\"blacklisted\"").toList := by
  have ht : '\x1b' ∉ "14:32:01.234".toList := by decide
  refine ⟨ht, ?_⟩
  rw [(Event.prettyLine_agrees _ ht _).1]
  decide +kernel

end AddressGate
