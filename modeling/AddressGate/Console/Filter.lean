/-
  Which events the console shows.

  A filter is a list of directives; each names the beginning of a target (the
  empty one is the beginning of all) and the most verbose level shown.

  * `Filter.deciding?` is the directive that decides for a target: of those
    that name a beginning of it the longest, of equally long ones the last.
    Where none applies nothing is shown;
  * `Filter.ofText` reads comma-separated directives `level`, `target` or
    `target=level`.  One that cannot be read spoils all, and the filter is then
    the same as with no text: everything up to `info`.  A text without
    directives shows errors alone;
  * `Directive.parse?`: a directive begins with a letter, a number, `-`, `:` or
    `_`.  A level is a name, in capitals or not, or its place on the scale
    (`off` is 0); a missing one is `trace`.  Blanks are never dropped: a level
    with blanks around it is none, but read as a target.

  A directive may also be about spans, `target[span{field=value}]=level`.  Those
  are left out: what is read here is meant for texts without a bracket in front
  of a level (`Filter.Spanless`).
-/
import AddressGate.Event
import AddressGate.Text.Alphanumeric
import AddressGate.Text.Blank
import AddressGate.Text.Number

namespace AddressGate

/-- The most verbose level that is shown. -/
inductive Threshold where
  | off
  | upTo (level : Level)
  deriving DecidableEq, Repr

/-- The level is shown. -/
def Threshold.admits : Threshold → Level → Bool
  | off, _ => false
  | upTo most, level => level.verbosity ≤ most.verbosity

namespace Threshold

/-- The thresholds with their names, by their place on the scale. -/
def names : List (String × Threshold) :=
  [("off", off), ("error", upTo .error), ("warn", upTo .warn), ("info", upTo .info),
    ("debug", upTo .debug), ("trace", upTo .trace)]

/-- A threshold by its name, in capitals or not. -/
def named? (cs : List Char) : Option Threshold :=
  names.lookup (String.ofList (cs.map Char.toLower))

/-- A threshold by its place on the scale, in decimal digits that a plus sign
    may precede. -/
def numbered? (cs : List Char) : Option Threshold :=
  (Text.number? 10 (if cs.head? = some '+' then cs.tail else cs)).bind fun n =>
    names[n]?.map Prod.snd

/-- A threshold in either spelling. -/
def parse? (cs : List Char) : Option Threshold := numbered? cs <|> named? cs

end Threshold

/-- What is shown of the targets with a common beginning. -/
structure Directive where
  target : List Char
  threshold : Threshold
  deriving DecidableEq, Repr

namespace Directive

/-- The directive is about the target. -/
def appliesTo (d : Directive) (target : List Char) : Bool := d.target.isPrefixOf target

/-- The text is about no span: no bracket opens in front of the level. -/
def Spanless (cs : List Char) : Prop := '[' ∉ cs.takeWhile (· ≠ '=')

instance : DecidablePred Spanless := fun _ => inferInstanceAs (Decidable (_ ∉ _))

/-- A character that a directive may begin with. -/
def isOpening (c : Char) : Bool :=
  c == '-' || c == ':' || c == '_' || Text.isAlphanumeric c

/-- The level behind an equals sign. -/
def level? (cs : List Char) : Option Threshold :=
  if cs = [] then some (.upTo .trace) else Threshold.parse? cs

/-- A directive without an equals sign: a level for all targets, or else a
    target of which everything is shown. -/
def ofWord (cs : List Char) : Directive :=
  match Threshold.parse? cs with
  | some t => ⟨[], t⟩
  | none => ⟨cs, .upTo .trace⟩

/-- Reads a directive that is about no span.  A word may stand behind blanks,
    which stay part of it; a target before an equals sign may not. -/
def parse? (cs : List Char) : Option Directive :=
  match cs.splitOn '=' with
  | [word] => if (Text.trim word).head?.any isOpening then some (ofWord word) else none
  | target :: rest =>
    if target.head?.any isOpening then
      (level? (['='].intercalate rest)).map fun t => ⟨target, t⟩
    else none
  | [] => none

end Directive

/-- The directives of a console, in order. -/
structure Filter where
  directives : List Directive
  deriving DecidableEq, Repr

namespace Filter

/-- One threshold for all targets. -/
def uniform (t : Threshold) : Filter := ⟨[⟨[], t⟩]⟩

/-- The filter where none is asked for. -/
def usual : Filter := uniform (.upTo .info)

/-- Of two directives that apply, the one that decides: the later unless the
    earlier names more of the target. -/
def closer (earlier : Option Directive) (later : Directive) : Directive :=
  match earlier with
  | some d => if later.target.length < d.target.length then d else later
  | none => later

/-- The directive that decides for a target. -/
def deciding? (f : Filter) (target : List Char) : Option Directive :=
  (f.directives.filter (·.appliesTo target)).foldl (fun best d => some (closer best d)) none

/-- The event is shown. -/
def admits (f : Filter) (e : Event) : Bool :=
  match f.deciding? e.record.target.toList with
  | some d => d.threshold.admits e.record.level
  | none => false

/-- Nothing is reported that is less important than debugging. -/
theorem admits_uniform_debug (e : Event) : (uniform (.upTo .debug)).admits e = true := by
  rcases e with _ | (_ | _) | _ | _ | _ | (_ | _ | _) <;> rfl

/-- The parts of a text between its commas that are not empty. -/
def parts (text : String) : List (List Char) := (text.toList.splitOn ',').filter (· ≠ [])

/-- No part of the text is about spans. -/
def Spanless (text? : Option String) : Prop :=
  ∀ text ∈ text?, ∀ part ∈ parts text, Directive.Spanless part

instance : DecidablePred Spanless := fun text? =>
  inferInstanceAs (Decidable (∀ text ∈ text?, ∀ part ∈ parts text, Directive.Spanless part))

/-- The filter that a text asks for. -/
def ofText (text : String) : Filter :=
  match (parts text).mapM Directive.parse? with
  | none => usual
  | some [] => uniform (.upTo .error)
  | some ds => ⟨ds⟩

/-- The filter that a text asks for, if there is one. -/
def ofText? (text : Option String) : Filter := text.elim usual ofText

end Filter

end AddressGate
