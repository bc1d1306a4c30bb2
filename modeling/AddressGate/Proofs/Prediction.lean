/-
  What loading warns about, and what evaluation reports later.

  * `Rules.Loaded l`: the rules and the report of some way of loading;
    `Loaded.mem_malformed_iff` says which of its warnings are those of
    malformed subnets;
  * `Predicted peer entry ev`: a report of the matcher that quotes the entry, or
    its text before the slash, and not the peer;
  * `Pattern.predicted_of_diagnosed` is the step lemma for one entry,
    `Rules.lists_predicted` says what one list reports of a peer;
  * `evaluate_eq` takes the evaluation of rules apart into its two lists and the
    denial;
  * `evaluateAddress_predicted`: the lines that are shown of an evaluation, by
    the warnings of loading.
-/
import AddressGate.Console.Basic
import AddressGate.Document.Loading
import AddressGate.Proofs.Decision
import AddressGate.Proofs.Form
import AddressGate.Rules.Environment

namespace AddressGate

/-! ## Loading -/

namespace Rules

/-- The rules and the report of some way of loading. -/
inductive Loaded : Reported Event Rules → Prop
  | lists (blacklist whitelist : String) : Loaded (load blacklist whitelist)
  | document {text : String} {l : Reported Event Rules} (h : ofDocument text = .ok l) : Loaded l
  | environment {value? : String → Option ByteArray} {l : Reported Event Rules}
      (h : ofEnvironment value? = .ok l) : Loaded l

variable {l : Reported Event Rules}

/-- Loading reports the warnings, and perhaps that it is done. -/
theorem Loaded.exists_events (h : Loaded l) : ∃ done, l.events = l.result.warnings ++ done ∧
    ∀ ev ∈ done, ∃ b w, ev = .rulesLoaded b w := by
  cases h with
  | lists blacklist whitelist => exact ⟨[], (List.append_nil _).symm, nofun⟩
  | document h =>
    unfold ofDocument at h
    split at h
    · cases h
      exact ⟨[], (List.append_nil _).symm, nofun⟩
    · cases h
  | @environment value? _ h =>
    unfold ofEnvironment at h
    cases hb : readVariable value? ListName.blacklist.variableName with
    | error e => rw [hb] at h; cases h
    | ok b =>
      cases hw : readVariable value? ListName.whitelist.variableName with
      | error e => rw [hb, hw] at h; cases h
      | ok w =>
        rw [hb, hw] at h
        cases h
        exact ⟨[.rulesLoaded _ _], rfl, fun ev hev => ⟨_, _, List.mem_singleton.1 hev⟩⟩

theorem malformedEntry_mem_warnings_iff {r : Rules} {list : ListName} {e : String} :
    .malformedEntry list e ∈ r.warnings ↔
      e ∈ r.entries list ∧ '/' ∈ e.toList ∧ Pattern.isWellFormed e = false := by
  have hmem := @mem_warnings_iff r (.malformedEntry list e)
  simp only [withWarnings, Pattern.entryWarning?_eq_some_iff] at hmem
  rw [hmem]
  constructor
  · rintro ⟨m, f, hf, hw, hev⟩
    split_ifs at hev with hs
    cases hev
    exact ⟨hf, hs, hw⟩
  · rintro ⟨he, hs, hw⟩
    exact ⟨list, e, he, hw, (if_pos hs).symm⟩

/-- **The entries that loading warns about as malformed subnets.** -/
theorem Loaded.mem_malformed_iff (h : Loaded l) {list : ListName} {e : String} :
    .malformedEntry list e ∈ l.events ↔
      e ∈ l.result.entries list ∧ '/' ∈ e.toList ∧ Pattern.isWellFormed e = false := by
  obtain ⟨done, hev, hdone⟩ := h.exists_events
  rw [hev, List.mem_append, malformedEntry_mem_warnings_iff]
  refine ⟨fun hm => hm.resolve_right fun hd => ?_, Or.inl⟩
  obtain ⟨b, w, hbw⟩ := hdone _ hd
  cases hbw

end Rules

/-! ## One entry -/

/-- The event is a report of the matcher about the entry: it quotes the entry,
    or the text before its slash, and never the peer. -/
structure Predicted (peer entry : String) (ev : Event) : Prop where
  level : ev.record.level = .debug
  target : ev.record.target = "goodies::net::ip_matcher"
  quotes : ∃ name text, ev.record.fields = [(name, .text text)] ∧
    (text = entry ∨ '/' ∉ text.toList ∧ ∃ digits, entry = text ++ "/" ++ digits) ∧ text ≠ peer

namespace Pattern

variable {x : Address} {e : String}

/-- An entry with a slash that is not well-formed. -/
def IsMalformedSubnet (e : String) : Prop := '/' ∈ e.toList ∧ isWellFormed e = false

instance : DecidablePred IsMalformedSubnet := fun _ => inferInstanceAs (Decidable (_ ∧ _))

/-- **What an entry reports of a peer.**  A malformed subnet has one report,
    any other entry none. -/
theorem predicted_of_diagnosed {d : Option Diagnostic} (h : Diagnosed x.text e d) :
    (IsMalformedSubnet e ∧ ∃ diag, d = some diag ∧ Predicted x.text e (.unreadable diag)) ∨
      (¬ IsMalformedSubnet e ∧ d = none) := by
  cases h with
  | verbatim h => exact Or.inr ⟨fun hm => h hm.1, rfl⟩
  | specifier h hs =>
    have hw : isWellFormed e = false := by
      rw [← Bool.not_eq_true, isWellFormed_iff_readable h]
      rintro ⟨address, n, a, hs', -⟩
      exact hs address n hs'
    have hne : e ≠ x.text := fun he => x.slash_not_mem_text (he ▸ h)
    exact Or.inl ⟨⟨h, hw⟩, _, rfl, rfl, rfl, _, e, rfl, Or.inl rfl, hne⟩
  | @address address n hs ha =>
    have hw : isWellFormed e = false := by
      rw [← Bool.not_eq_true, isWellFormed_iff_readable hs.slash_mem]
      rintro ⟨address', n', a, hs', ha'⟩
      obtain ⟨rfl, -⟩ := hs.unique hs'
      rw [ha] at ha'
      cases ha'
    have hne : address ≠ x.text := by
      rintro rfl
      rw [x.parse?_text] at ha
      cases ha
    refine Or.inl ⟨⟨hs.slash_mem, hw⟩, _, rfl, rfl, rfl, _, address, rfl, Or.inr ?_, hne⟩
    obtain ⟨-, hslash, -, -⟩ := hs
    exact ⟨hslash, _, rfl⟩
  | candidate hs ha hc =>
    rw [x.parse?_text] at hc
    cases hc
  | @read address n a b hs ha hc =>
    refine Or.inr ⟨fun hm => ?_, rfl⟩
    have hw := (isWellFormed_iff_readable hm.1).2 ⟨address, n, a, hs, ha⟩
    rw [hm.2] at hw
    cases hw

/-- A row of entries reports its malformed subnets, in order. -/
theorem predicted_of_forall₂ {es : List String} {ds : List (Option Diagnostic)}
    (h : List.Forall₂ (Diagnosed x.text) es ds) :
    List.Forall₂ (Predicted x.text) (es.filter IsMalformedSubnet)
      (ds.reduceOption.map Event.unreadable) := by
  induction h with
  | nil => exact .nil
  | @cons e d es ds hd _ ih =>
    rcases predicted_of_diagnosed hd with ⟨hm, diag, rfl, hp⟩ | ⟨hm, rfl⟩
    · rw [List.filter_cons_of_pos (by simpa using hm)]
      exact .cons hp ih
    · rw [List.filter_cons_of_neg (by simpa using hm)]
      exact ih

end Pattern

/-! ## Evaluation -/

namespace Rules

variable {r : Rules} {list : ListName} {peer : String}

/-- The entries of a list before the first that the text matches. -/
def beforeMatch (r : Rules) (list : ListName) (remote : String) : List String :=
  (r.entries list).takeWhile fun e => ¬ Pattern.Matches remote e

theorem lists_predicted (r : Rules) (list : ListName) (x : Address) :
    List.Forall₂ (Predicted x.text) ((r.beforeMatch list x.text).filter Pattern.IsMalformedSubnet)
      (r.lists list x.text).events := by
  obtain ⟨ds, hds, he⟩ := Pattern.anyAccepts_events x.text (r.entries list)
  rw [lists, Reported.events_mapEvents, he]
  simpa [beforeMatch] using Pattern.predicted_of_forall₂ hds

/-- **The evaluation of rules, in its parts.**  The whitelist is looked at unless
    the blacklist has a match; a denial is reported last. -/
theorem evaluate_eq (r : Rules) (remote : String) :
    r.evaluate remote =
      if (r.lists .blacklist remote).result then
        ⟨.denied, (r.lists .blacklist remote).events ++ [.requestDenied (.blacklisted remote)]⟩
      else if r.whitelist = [] ∨ (r.lists .whitelist remote).result then
        ⟨.allowed, (r.lists .blacklist remote).events ++ (r.lists .whitelist remote).events⟩
      else
        ⟨.denied, (r.lists .blacklist remote).events ++ (r.lists .whitelist remote).events ++
          [.requestDenied (.notWhitelisted remote)]⟩ := by
  have hnone : r.whitelist = [] → (r.lists .whitelist remote).events = [] := by
    intro hw
    rw [lists, entries, hw]
    rfl
  cases hb : (r.lists .blacklist remote).result with
  | true => simp [evaluate, bind, hb, deny]
  | false =>
    by_cases hw : r.whitelist = []
    · simp [evaluate, bind, hb, hw, hnone hw, pure]
    · cases hm : (r.lists .whitelist remote).result with
      | true => simp [evaluate, bind, hb, hw, hm, pure]
      | false => simp [evaluate, bind, hb, hw, hm, deny]

/-- A denial is reported behind the lists that were looked at, and nothing for
    a request that is allowed. -/
theorem exists_evaluate_events (r : Rules) (remote : String) :
    ∃ ds, (r.evaluate remote).events = (r.lists .blacklist remote).events ++
        (if (r.lists .blacklist remote).result then []
          else (r.lists .whitelist remote).events) ++ ds ∧
      (((r.evaluate remote).result = .denied ∧ ∃ d, ds = [.requestDenied d]) ∨
        ((r.evaluate remote).result = .allowed ∧ ds = [])) := by
  rw [evaluate_eq]
  split_ifs
  · exact ⟨_, by rw [List.append_nil], Or.inl ⟨rfl, _, rfl⟩⟩
  · exact ⟨[], (List.append_nil _).symm, Or.inr ⟨rfl, rfl⟩⟩
  · exact ⟨_, rfl, Or.inl ⟨rfl, _, rfl⟩⟩

/-- The entries before the first match that loading warned about as malformed
    subnets. -/
def warnedBefore (l : Reported Event Rules) (list : ListName) (remote : String) : List String :=
  (l.result.beforeMatch list remote).filter fun e => .malformedEntry list e ∈ l.events

theorem Loaded.warnedBefore_eq {l : Reported Event Rules} (h : Loaded l) (list : ListName)
    (remote : String) : warnedBefore l list remote =
      (l.result.beforeMatch list remote).filter Pattern.IsMalformedSubnet := by
  refine List.filter_congr fun e he => ?_
  have hmem : e ∈ l.result.entries list := (List.takeWhile_prefix _).subset he
  rw [decide_eq_decide, h.mem_malformed_iff]
  exact and_iff_right hmem

/-- **The warnings of loading predict what evaluation reports.**  On a console
    that shows everything, the evaluation of loaded rules for a peer shows one
    line of the matcher for each entry of the blacklist that was warned about as
    a malformed subnet and stands before the first match; if there is no match,
    the same for the whitelist; and then a denial, iff the peer is denied.  So
    nothing but a denial is shown if there was no such warning. -/
theorem evaluateAddress_predicted {l : Reported Event Rules} (hl : Loaded l) {c : Console}
    (hc : ∀ ev, c.filter.admits ev = true) (time : String) (ip : Address) :
    (∃ bs ws ds : List Event,
      c.lines time (l.result.evaluateAddress (some ip)).events =
        (bs ++ ws ++ ds).map (c.line time) ∧
      List.Forall₂ (Predicted ip.canonical.text)
        (warnedBefore l .blacklist ip.canonical.text) bs ∧
      ((∀ e ∈ l.result.blacklist, ¬ Pattern.Matches ip.canonical.text e) →
        List.Forall₂ (Predicted ip.canonical.text)
          (warnedBefore l .whitelist ip.canonical.text) ws) ∧
      ((∃ e ∈ l.result.blacklist, Pattern.Matches ip.canonical.text e) → ws = []) ∧
      (((l.result.evaluateAddress (some ip)).result = .denied ∧ ∃ d, ds = [.requestDenied d]) ∨
        ((l.result.evaluateAddress (some ip)).result = .allowed ∧ ds = []))) ∧
    ((∀ list e, .malformedEntry list e ∉ l.events) →
      c.lines time (l.result.evaluateAddress (some ip)).events = [] ∨
      ∃ d, c.lines time (l.result.evaluateAddress (some ip)).events =
        [c.line time (.requestDenied d)]) := by
  have hshown := c.lines_eq_map hc time
  have hb := lists_predicted l.result .blacklist ip.canonical
  have hw := lists_predicted l.result .whitelist ip.canonical
  rw [← hl.warnedBefore_eq] at hb hw
  have hmatch := @lists_result_iff l.result .blacklist ip.canonical.text
  simp only [hshown, evaluateAddress]
  obtain ⟨ds, hevents, hds⟩ := exists_evaluate_events l.result ip.canonical.text
  rw [hevents]
  constructor
  · refine ⟨_, _, ds, rfl, hb, fun hno => ?_, fun hyes => if_pos (hmatch.2 hyes), hds⟩
    rwa [if_neg]
    rw [hmatch]
    rintro ⟨e, he, hm⟩
    exact hno e he hm
  · intro hno
    have hnil : ∀ list, warnedBefore l list ip.canonical.text = [] := fun list =>
      List.filter_eq_nil_iff.2 fun e _ => by simpa using hno list e
    rw [hnil, List.forall₂_nil_left_iff] at hb hw
    rw [hb, hw, ite_self, List.append_nil, List.nil_append]
    rcases hds with ⟨-, d, rfl⟩ | ⟨-, rfl⟩
    · exact Or.inr ⟨d, rfl⟩
    · exact Or.inl rfl

/-- The third entry stands behind the match and is not reported. -/
theorem evaluateAddress_predicted_before_match :
    ∃ b d, Predicted "10.1.2.3" "10.0.0.0/x" b ∧
      (⟨.plain, .ofText "debug"⟩ : Console).lines ""
          ((load "10.0.0.0/x, 10.0.0.0/8, bad/8" "").result.evaluateAddress
            (some ⟨.v4, [10, 1, 2, 3], rfl⟩)).events =
        [b, .requestDenied d].map (Console.line ⟨.plain, .ofText "debug"⟩ "") := by
  have hfilter : Filter.ofText "debug" = .uniform (.upTo .debug) := by decide +kernel
  have hc : ∀ ev, (⟨.plain, .ofText "debug"⟩ : Console).filter.admits ev = true := by
    rw [hfilter]
    exact Filter.admits_uniform_debug
  obtain ⟨⟨bs, ws, ds, hlines, hbs, -, hws, hds⟩, -⟩ :=
    evaluateAddress_predicted (.lists "10.0.0.0/x, 10.0.0.0/8, bad/8" "") hc ""
      ⟨.v4, [10, 1, 2, 3], rfl⟩
  have hwarned : warnedBefore (load "10.0.0.0/x, 10.0.0.0/8, bad/8" "") .blacklist "10.1.2.3" =
      ["10.0.0.0/x"] := by decide +kernel
  have htext : (⟨.v4, [10, 1, 2, 3], rfl⟩ : Address).canonical.text = "10.1.2.3" := by
    decide +kernel
  rw [htext] at hbs hws
  rw [hwarned] at hbs
  obtain ⟨b, bs, hb, hnil, rfl⟩ := List.forall₂_cons_left_iff.1 hbs
  obtain rfl := List.forall₂_nil_left_iff.1 hnil
  obtain rfl := hws (by decide +kernel)
  rcases hds with ⟨-, d, rfl⟩ | ⟨hallowed, -⟩
  · exact ⟨b, d, hb, hlines⟩
  · exact absurd hallowed (by decide +kernel)

end Rules

end AddressGate
