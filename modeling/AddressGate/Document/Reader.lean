/-
  Reading rules from a document, character by character.

  Rules are an object, whose members `blacklist` and `whitelist` are lists of
  texts; any other member is ignored, and neither list may be named twice.  They
  may also be a list of these two lists in this order.  Missing lists are empty.

  * A `State` is everything that matters of what was read so far;
  * `State.step` reads one more character, `State.finish` ends the document.
-/
import AddressGate.Document.Scalar
import AddressGate.Document.Skipped

namespace AddressGate.Document

/-- The lists read so far. -/
structure Draft where
  blacklist? : Option (List String)
  whitelist? : Option (List String)
  deriving DecidableEq, Repr

namespace Draft

/-- No lists. -/
def empty : Draft := ⟨none, none⟩

/-- A list, if it was read. -/
def get? (d : Draft) : ListName → Option (List String)
  | .blacklist => d.blacklist?
  | .whitelist => d.whitelist?

/-- One more list. -/
def set (d : Draft) (list : ListName) (entries : List String) : Draft :=
  match list with
  | .blacklist => { d with blacklist? := some entries }
  | .whitelist => { d with whitelist? := some entries }

/-- The rules; missing lists are empty. -/
def rules (d : Draft) : Rules := ⟨d.blacklist?.getD [], d.whitelist?.getD []⟩

end Draft

/-- Where the reader is between the values within some brackets. -/
inductive Turn where
  /-- Behind the opening bracket. -/
  | first
  /-- Behind a value. -/
  | next
  /-- Behind a comma. -/
  | comma
  deriving DecidableEq, Repr

/-- A list that is being read, and the brackets it stands in. -/
structure Home where
  outer : Bracket
  draft : Draft
  list : ListName
  deriving DecidableEq, Repr

/-- Where the reader is within a document. -/
inductive State where
  /-- Before the rules. -/
  | start
  /-- Between the members of the object. -/
  | member (d : Draft) (turn : Turn)
  /-- Within a key. -/
  | key (d : Draft) (q : Quotation)
  /-- Behind a key, of a list or of a member that is ignored. -/
  | colon (d : Draft) (list? : Option ListName)
  /-- Behind the key of a list that was read before. -/
  | repeated (list : ListName)
  /-- Within a member that is ignored. -/
  | skipped (d : Draft) (s : Skipped)
  /-- Between the elements of the outer list, before the given one. -/
  | element (d : Draft) (list : ListName) (turn : Turn)
  /-- Behind the last element of the outer list; behind a comma there or not. -/
  | lastElement (d : Draft) (comma : Bool)
  /-- Where a list is due. -/
  | listDue (home : Home)
  /-- Between the entries of a list, the last one first. -/
  | entries (home : Home) (reversed : List String) (turn : Turn)
  /-- Within an entry. -/
  | entry (home : Home) (reversed : List String) (q : Quotation)
  /-- Within a value that is out of place. -/
  | mistyped (expected : Expected) (s : Scalar)
  /-- Behind the rules. -/
  | closed (r : Rules)
  deriving DecidableEq, Repr

/-- The list that a key names. -/
def listOfKey? (key : List Char) : Option ListName :=
  ListName.all.find? fun list => list.text.toList = key

namespace State

/-- A value that is out of place. -/
def refuse (expected : Expected) (c : Char) : Except Fault State :=
  (expected.refuse c).map (mistyped expected)

/-- The first character of the rules. -/
def beginRules (c : Char) : Except Fault State :=
  if c = '\x7b' then .ok (member .empty .first)
  else if c = '[' then .ok (element .empty .blacklist .first)
  else refuse .rules c

/-- The first character of a list. -/
def beginList (home : Home) (c : Char) : Except Fault State :=
  if c = '[' then .ok (entries home [] .first) else refuse .list c

/-- The first character of an entry. -/
def beginEntry (home : Home) (reversed : List String) (c : Char) : Except Fault State :=
  if c = '\"' then .ok (entry home reversed .start) else refuse .entry c

/-- The state behind a list. -/
def afterList (home : Home) (es : List String) : State :=
  let d := home.draft.set home.list es
  match home.outer, home.list with
  | .object, _ => member d .next
  | .list, .blacklist => element d .whitelist .next
  | .list, .whitelist => lastElement d false

/-- The state behind a key. -/
def afterKey (d : Draft) (key : List Char) : State :=
  match listOfKey? key with
  | none => colon d none
  | some list => if (d.get? list).isSome then repeated list else colon d (some list)

/-- A character between the members of the object. -/
def stepMember (d : Draft) (turn : Turn) (c : Char) : Except Fault State :=
  match turn with
  | .first =>
    if c = '\x7d' then .ok (closed d.rules)
    else if c = '\"' then .ok (key d .start)
    else .error Cause.keyNotText.behind
  | .next =>
    if c = '\x7d' then .ok (closed d.rules)
    else if c = ',' then .ok (member d .comma)
    else .error Cause.expectedObjectEnd.behind
  | .comma =>
    if c = '\x7d' then .error Cause.trailingComma.behind
    else if c = '\"' then .ok (key d .start)
    else .error Cause.keyNotText.behind

/-- A character between the elements of the outer list. -/
def stepElement (d : Draft) (list : ListName) (turn : Turn) (c : Char) : Except Fault State :=
  match turn with
  | .first => if c = ']' then .ok (closed d.rules) else beginList ⟨.list, d, list⟩ c
  | .next =>
    if c = ']' then .ok (closed d.rules)
    else if c = ',' then .ok (element d list .comma)
    else .error Cause.expectedListEnd.behind
  | .comma =>
    if c = ']' then .error Cause.trailingComma.behind else beginList ⟨.list, d, list⟩ c

/-- A character behind the last element of the outer list. -/
def stepLastElement (d : Draft) (comma : Bool) (c : Char) : Except Fault State :=
  if c = ']' then
    if comma then .error Cause.trailingComma.behind else .ok (closed d.rules)
  else if c = ',' ∧ ¬ comma then .ok (lastElement d true)
  else .error Cause.trailingCharacters.behind

/-- A character between the entries of a list. -/
def stepEntries (home : Home) (reversed : List String) (turn : Turn) (c : Char) :
    Except Fault State :=
  match turn with
  | .first =>
    if c = ']' then .ok (afterList home reversed.reverse) else beginEntry home reversed c
  | .next =>
    if c = ']' then .ok (afterList home reversed.reverse)
    else if c = ',' then .ok (entries home reversed .comma)
    else .error Cause.expectedListEnd.behind
  | .comma =>
    if c = ']' then .error Cause.trailingComma.behind else beginEntry home reversed c

/-- White space changes nothing here. -/
def skipsSpace : State → Bool
  | key _ _ | skipped _ _ | entry _ _ _ | mistyped _ _ => false
  | _ => true

/-- Reads one more character, which is no white space if that is skipped. -/
def stepOther (s : State) (c : Char) : Except Fault State := do
  match s with
  | start => beginRules c
  | member d turn => stepMember d turn c
  | key d q =>
    match ← q.step c with
    | .more q => return key d q
    | .closed cs => return afterKey d cs
  | colon d list? =>
    if c = ':' then
      match list? with
      | some l => return listDue ⟨.object, d, l⟩
      | none => return skipped d .start
    else .error Cause.expectedColon.behind
  | repeated l => .error ⟨.repeatedList l, if c = '\x7d' then 1 else 0⟩
  | skipped d v =>
    match ← v.step c with
    | some v => return skipped d v
    | none => if isSpace c then return member d .next else stepMember d .next c
  | element d l turn => stepElement d l turn c
  | lastElement d comma => stepLastElement d comma c
  | listDue home => beginList home c
  | entries home reversed turn => stepEntries home reversed turn c
  | entry home reversed q =>
    match ← q.step c with
    | .more q => return entry home reversed q
    | .closed cs => return entries home (String.ofList cs :: reversed) .next
  | mistyped expected v => return mistyped expected (← v.step expected c)
  | closed _ => .error Cause.trailingCharacters.behind

/-- Reads one more character. -/
def step (s : State) (c : Char) : Except Fault State :=
  if s.skipsSpace ∧ isSpace c then .ok s else s.stepOther c

/-- The rules of a document that ends here. -/
def finish : State → Except Cause Rules
  | start | listDue _ => .error .endInValue
  | member _ turn => .error (if turn = .comma then .endInValue else .endInObject)
  | key _ _ | entry _ _ _ => .error .endInText
  | colon _ _ => .error .endInObject
  | repeated l => .error (.repeatedList l)
  | skipped _ v => .error v.atEnd
  | element _ _ turn | entries _ _ turn =>
    .error (if turn = .comma then .endInValue else .endInList)
  | lastElement _ comma => .error (if comma then .trailingCharacters else .endInList)
  | mistyped expected v => .error (v.atEnd expected)
  | closed r => .ok r

end State

end AddressGate.Document
