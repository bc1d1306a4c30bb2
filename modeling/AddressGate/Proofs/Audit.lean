/-
  The log of decisions: what each of them reports, and how often a denial is.

  * `Decided r remote o evs`: the rules decide `o` about the remote text and
    report `evs`, by what the two lists match;
  * `Rules.evaluate_eq_iff`: this is what evaluation gives;
  * `Console.line_injective`: lines tell events apart, so the denials of a log
    can be counted by its lines;
  * `Session.countP_events_perform` is the step lemma: a call reports one denial
    if its answer is one, and else none; `Session.countP_events_run` says so of a
    run, by induction;
  * `Session.decisions_audited`: the decision and its log, and the denials of a
    run, as a console shows them.
-/
import AddressGate.Proofs.Colour
import AddressGate.Proofs.Environment
import AddressGate.Proofs.FailClosed
import AddressGate.Proofs.Session

namespace AddressGate

namespace Event

variable {ev : Event}

/-- The event is shown as the denial of a request. -/
def IsDenial (ev : Event) : Prop := ev.record.message = "Request denied"

instance : DecidablePred IsDenial := fun _ => inferInstanceAs (Decidable (_ = _))

/-- The event is shown as the denial of a request, for a reason. -/
def IsDenialOf (remote reason : String) (ev : Event) : Prop :=
  ev.record = ⟨.debug, "goodies::web::request_rules", "Request denied",
    [("remote", .text remote), ("reason", .text reason)]⟩

theorem isDenial_iff : ev.IsDenial ↔ ∃ d, ev = .requestDenied d := by
  constructor
  · intro h
    rcases ev with _ | (_ | _) | _ | _ | _ | d
    case requestDenied => exact ⟨d, rfl⟩
    all_goals exact absurd h (by simp [IsDenial, record])
  · rintro ⟨d, rfl⟩
    rfl

theorem isDenialOf_blacklisted_iff {remote : String} :
    ev.IsDenialOf remote "blacklisted" ↔ ev = .requestDenied (.blacklisted remote) :=
  record_injective.eq_iff (b := .requestDenied (.blacklisted remote))

theorem isDenialOf_notWhitelisted_iff {remote : String} :
    ev.IsDenialOf remote "not whitelisted" ↔ ev = .requestDenied (.notWhitelisted remote) :=
  record_injective.eq_iff (b := .requestDenied (.notWhitelisted remote))

/-- Events that are no denials are not counted. -/
theorem countP_eq_zero {evs : List Event} (h : ∀ ev ∈ evs, ∀ d, ev ≠ .requestDenied d) :
    evs.countP IsDenial = 0 := by
  refine List.countP_eq_zero.2 fun ev hev => ?_
  rw [decide_eq_true_iff, isDenial_iff]
  rintro ⟨d, hd⟩
  exact h ev hev d hd

/-- What matching reports is no denial. -/
theorem countP_map_unreadable (diags : List Diagnostic) :
    (diags.map unreadable).countP IsDenial = 0 := by
  refine countP_eq_zero fun ev hev d => ?_
  obtain ⟨diag, -, rfl⟩ := List.mem_map.1 hev
  exact nofun

end Event

/-! ## Lines -/

/-- Whatever the time is, lines in colours tell events apart. -/
theorem Event.prettyLine_injective (time : String) :
    Function.Injective fun ev : Event => ev.record.prettyLine time := by
  intro ev ev' h
  -- the time stands at the front of both lines, so another one does as well
  have hno : ev.record.prettyLine "" = ev'.record.prettyLine "" := by
    simpa [Record.prettyLine] using h
  have hplain : ∀ ev : Event,
      Text.withoutSequences (ev.record.prettyLine "") = ' ' :: ev.record.plainLine := fun ev =>
    (Record.shows_prettyLine ev.record_regular (by decide)).withoutSequences_eq
  have hlines : ' ' :: ev.record.plainLine = ' ' :: ev'.record.plainLine := by
    rw [← hplain, ← hplain, hno]
  exact Event.plainLine_injective (List.cons.inj hlines).2

theorem Console.line_injective (c : Console) (time : String) :
    Function.Injective (c.line time) := by
  intro ev ev' h
  have hchars := String.ofList_injective h
  cases hstyle : c.style with
  | plain =>
    rw [hstyle] at hchars
    exact Event.plainLine_injective hchars
  | pretty =>
    rw [hstyle] at hchars
    exact Event.prettyLine_injective time hchars

/-- The text is the line of a denial. -/
def Console.IsDenialLine (c : Console) (time text : String) : Prop :=
  ∃ ev : Event, ev.IsDenial ∧ c.line time ev = text

noncomputable instance (c : Console) (time : String) : DecidablePred (c.IsDenialLine time) :=
  Classical.decPred _

theorem Console.isDenialLine_line_iff (c : Console) {time : String} {ev : Event} :
    c.IsDenialLine time (c.line time ev) ↔ ev.IsDenial := by
  constructor
  · rintro ⟨ev', hev, hline⟩
    rwa [← c.line_injective time hline]
  · intro hev
    exact ⟨ev, hev, rfl⟩

/-! ## One decision -/

namespace Rules

variable {r : Rules} {remote : String}

/-- What matching a remote text with a list reports. -/
def diagnostics (r : Rules) (list : ListName) (remote : String) : List Event :=
  (Pattern.anyAccepts remote (r.entries list)).events.map Event.unreadable

/-- The decision about a remote text, and the log of it: what matching reports,
    and then the denial, if it is one. -/
inductive Decided (r : Rules) (remote : String) : Outcome → List Event → Prop
  | blacklisted {ev : Event} (hb : ∃ e ∈ r.blacklist, Pattern.Matches remote e)
      (hev : ev.IsDenialOf remote "blacklisted") :
      Decided r remote .denied (r.diagnostics .blacklist remote ++ [ev])
  | notWhitelisted {ev : Event} (hb : ∀ e ∈ r.blacklist, ¬ Pattern.Matches remote e)
      (hne : r.whitelist ≠ []) (hw : ∀ e ∈ r.whitelist, ¬ Pattern.Matches remote e)
      (hev : ev.IsDenialOf remote "not whitelisted") :
      Decided r remote .denied
        (r.diagnostics .blacklist remote ++ r.diagnostics .whitelist remote ++ [ev])
  | allowed (hb : ∀ e ∈ r.blacklist, ¬ Pattern.Matches remote e)
      (hw : r.whitelist = [] ∨ ∃ e ∈ r.whitelist, Pattern.Matches remote e) :
      Decided r remote .allowed
        (r.diagnostics .blacklist remote ++ r.diagnostics .whitelist remote)

theorem lists_events (list : ListName) : (r.lists list remote).events = r.diagnostics list remote :=
  rfl

/-- **A decision and its log, by what the lists match.** -/
theorem evaluate_eq_iff {o : Outcome} {evs : List Event} :
    r.evaluate remote = ⟨o, evs⟩ ↔ r.Decided remote o evs := by
  have hyes : ∀ list, (r.lists list remote).result = true ↔
      ∃ e ∈ r.entries list, Pattern.Matches remote e := fun _ => lists_result_iff
  have hno : ∀ list, (r.lists list remote).result ≠ true ↔
      ∀ e ∈ r.entries list, ¬ Pattern.Matches remote e := fun list => by
    rw [ne_eq, hyes]
    simp
  rw [evaluate_eq, lists_events, lists_events]
  constructor
  · split_ifs with hb hw
    · rintro ⟨rfl, rfl⟩
      exact .blacklisted ((hyes .blacklist).1 hb) (Event.isDenialOf_blacklisted_iff.2 rfl)
    · rintro ⟨rfl, rfl⟩
      exact .allowed ((hno .blacklist).1 hb) (hw.imp id (hyes .whitelist).1)
    · rintro ⟨rfl, rfl⟩
      obtain ⟨hne, hw⟩ := not_or.1 hw
      exact .notWhitelisted ((hno .blacklist).1 hb) hne ((hno .whitelist).1 hw)
        (Event.isDenialOf_notWhitelisted_iff.2 rfl)
  · intro h
    cases h with
    | blacklisted hb hev =>
      rw [if_pos ((hyes .blacklist).2 hb), Event.isDenialOf_blacklisted_iff.1 hev]
    | notWhitelisted hb hne hw hev =>
      rw [if_neg ((hno .blacklist).2 hb), if_neg (not_or.2 ⟨hne, (hno .whitelist).2 hw⟩),
        Event.isDenialOf_notWhitelisted_iff.1 hev]
    | allowed hb hw =>
      rw [if_neg ((hno .blacklist).2 hb), if_pos (hw.imp id (hyes .whitelist).2)]

theorem evaluate_decided (r : Rules) (remote : String) :
    r.Decided remote (r.evaluate remote).result (r.evaluate remote).events :=
  evaluate_eq_iff.1 rfl

/-- A decision reports one denial, or none. -/
theorem Decided.countP_eq {o : Outcome} {evs : List Event} (h : r.Decided remote o evs) :
    evs.countP Event.IsDenial = if o = .denied then 1 else 0 := by
  have hnone : ∀ list, (r.diagnostics list remote).countP Event.IsDenial = 0 := fun _ =>
    Event.countP_map_unreadable _
  cases h with
  | blacklisted _ hev =>
    obtain rfl := Event.isDenialOf_blacklisted_iff.1 hev
    rw [List.countP_append, hnone]
    rfl
  | notWhitelisted _ _ _ hev =>
    obtain rfl := Event.isDenialOf_notWhitelisted_iff.1 hev
    rw [List.countP_append, List.countP_append, hnone, hnone]
    rfl
  | allowed =>
    rw [List.countP_append, hnone, hnone]
    rfl

theorem countP_events_evaluateAddress (r : Rules) (remote : Option Address) :
    (r.evaluateAddress remote).events.countP Event.IsDenial =
      if (r.evaluateAddress remote).result = .denied then 1 else 0 := by
  cases remote with
  | some ip => exact (r.evaluate_decided ip.canonical.text).countP_eq
  | none =>
    rw [evaluateAddress]
    cases r.whitelist.isEmpty <;> rfl

/-- A remote text that matches nothing is decided about as an unknown peer. -/
theorem evaluate_result_of_no_match
    (h : ∀ list, ∀ e ∈ r.entries list, ¬ Pattern.Matches remote e) :
    (r.evaluate remote).result = (r.evaluateAddress none).result := by
  refine Outcome.eq_of_denied_iff ?_
  rw [evaluate_denied_iff, evaluateAddress_none_denied_iff]
  constructor
  · rintro (⟨e, he, hm⟩ | ⟨hne, -⟩)
    · exact absurd hm (h .blacklist e he)
    · exact hne
  · intro hne
    exact Or.inr ⟨hne, h .whitelist⟩

/-- Loading reports no denial. -/
theorem Loaded.countP_events {l : Reported Event Rules} (h : Loaded l) :
    l.events.countP Event.IsDenial = 0 := by
  obtain ⟨done, hevents, hdone⟩ := h.exists_events
  refine Event.countP_eq_zero fun ev hev d => ?_
  rintro rfl
  rw [hevents, List.mem_append] at hev
  rcases hev with hev | hev
  · obtain ⟨list, e, -, hw⟩ := mem_warnings_iff.1 hev
    obtain ⟨-, hd⟩ := Pattern.entryWarning?_eq_some_iff.1 hw
    split_ifs at hd
  · obtain ⟨b, w, hd⟩ := hdone _ hev
    cases hd

end Rules

/-! ## A run -/

namespace Session

/-- **A call reports one denial if its answer is one, and else none.** -/
theorem countP_events_perform (s : Session) (call : Call) :
    (s.perform call).events.countP Event.IsDenial =
      if (s.perform call).result.2 = .outcome .denied then 1 else 0 := by
  cases call with
  | install style directives =>
    obtain ⟨rules, _ | console⟩ := s <;> rfl
  | load blacklist whitelist =>
    rw [perform, adopt_eq]
    exact (Rules.Loaded.lists blacklist whitelist).countP_events
  | document text =>
    cases h : Rules.ofDocument text with
    | error e =>
      rw [perform_document_of_error s h]
      rfl
    | ok l =>
      rw [perform_document_of_ok s h]
      exact (Rules.Loaded.document h).countP_events
  | environment value? =>
    cases h : Rules.ofEnvironment value? with
    | error e =>
      rw [perform_environment_of_error s h]
      rfl
    | ok l =>
      rw [perform_environment_of_ok s h]
      exact (Rules.Loaded.environment h).countP_events
  | evaluate remote =>
    have hcount := (s.rules.evaluate_decided remote).countP_eq
    simpa [perform] using hcount
  | evaluateAddress remote =>
    have hcount := s.rules.countP_events_evaluateAddress remote
    simpa [perform] using hcount
  | anyAccepts candidate patterns =>
    have hcount := Event.countP_map_unreadable (Pattern.anyAccepts candidate patterns).events
    simpa [perform] using hcount
  | holds subnet candidate =>
    have hcount := Event.countP_map_unreadable (Subnet.holds subnet candidate).events
    simpa [perform] using hcount
  | replace | push | clear | isEmpty | equals | toDocument => rfl

/-- **A run reports as many denials as it has answers that are denials.** -/
theorem countP_events_run (s : Session) (calls : List (String × Call)) :
    ((s.run calls).flatMap fun x => x.events).countP Event.IsDenial =
      (s.run calls).countP fun x => x.answer = .outcome .denied := by
  induction calls generalizing s with
  | nil => rfl
  | cons call calls ih =>
    obtain ⟨time, call⟩ := call
    have hcall := s.countP_events_perform call
    simp only [run, step, List.flatMap_cons, List.countP_append, List.countP_cons, ih, hcall,
      decide_eq_true_iff, Nat.add_comm]

/-- A console that admits everything shows a line for each event of a run. -/
theorem lines_of_mem_run {s : Session} {c : Console} (hs : s.console = some c)
    (hc : ∀ ev, c.filter.admits ev = true) {calls : List (String × Call)} :
    ∀ x ∈ s.run calls, x.lines = x.events.map (c.line x.time) := by
  have hon : s.on c = s := by rw [on, ← hs]
  rw [← hon, run_on hs]
  intro x hx
  obtain ⟨y, -, rfl⟩ := List.mem_map.1 hx
  exact c.lines_eq_map hc y.time y.events

/-- **Such a console shows as many denials as there are answers that are.** -/
theorem sum_countP_lines_run {s : Session} {c : Console} (hs : s.console = some c)
    (hc : ∀ ev, c.filter.admits ev = true) (calls : List (String × Call)) :
    ((s.run calls).map fun x => x.lines.countP (c.IsDenialLine x.time)).sum =
      (s.run calls).countP fun x => x.answer = .outcome .denied := by
  have hshown : ∀ x ∈ s.run calls,
      x.lines.countP (c.IsDenialLine x.time) = x.events.countP Event.IsDenial := by
    intro x hx
    rw [lines_of_mem_run hs hc x hx, List.countP_map]
    refine List.countP_congr fun ev _ => ?_
    rw [Function.comp_apply, decide_eq_true_iff, decide_eq_true_iff, c.isDenialLine_line_iff]
  rw [List.map_congr_left hshown, ← countP_events_run, List.countP_flatMap]
  rfl

end Session

/-- **What a decision reports, and how often denials are reported.**  The
    outcome and the log of a decision about a remote text are determined jointly
    by what the two lists match: the diagnostics of the lists that are looked at,
    and then one denial with its reason, if it is one.  A text that matches
    nothing is decided about as an unknown peer.  A console that admits
    everything shows a line for each event of a decision.  In any run of calls,
    of which decisions are some, the lines of such a console are those of the
    events, and there are as many denials among them as among the answers. -/
theorem Session.decisions_audited (r : Rules) (remote : String) :
    (∀ o evs, r.evaluate remote = ⟨o, evs⟩ ↔ r.Decided remote o evs) ∧
    ((∀ list, ∀ e ∈ r.entries list, ¬ Pattern.Matches remote e) →
      (r.evaluate remote).result = (r.evaluateAddress none).result) ∧
    ∀ c : Console, (∀ ev, c.filter.admits ev = true) →
      (∀ time, c.lines time (r.evaluate remote).events =
        (r.evaluate remote).events.map (c.line time)) ∧
      ∀ s : Session, s.console = some c → ∀ calls : List (String × Call),
        (∀ x ∈ s.run calls, x.lines = x.events.map (c.line x.time)) ∧
        ((s.run calls).map fun x => x.lines.countP (c.IsDenialLine x.time)).sum =
          (s.run calls).countP fun x => x.answer = .outcome .denied := by
  refine ⟨fun _ _ => Rules.evaluate_eq_iff, Rules.evaluate_result_of_no_match, fun c hc => ?_⟩
  refine ⟨fun time => c.lines_eq_map hc time _, fun s hs calls => ?_⟩
  exact ⟨lines_of_mem_run hs hc, sum_countP_lines_run hs hc calls⟩

/-- Two of three requests are denied: one matches the blacklist, behind an entry
    that cannot be read, and one is of an unknown peer. -/
theorem Session.decisions_audited_unknown_peer :
    ∃ (s : Session) (c : Console), s.console = some c ∧ (∀ ev, c.filter.admits ev = true) ∧
      ((s.run [("", .evaluate "10.1.2.3"), ("", .evaluate "127.0.0.1"),
        ("", .evaluateAddress none)]).map fun x => x.lines.countP (c.IsDenialLine x.time)).sum =
          2 := by
  have hc : ∀ ev, (⟨.plain, .uniform (.upTo .debug)⟩ : Console).filter.admits ev = true :=
    Filter.admits_uniform_debug
  obtain ⟨-, -, haudit⟩ := Session.decisions_audited Rules.empty ""
  obtain ⟨-, hruns⟩ := haudit _ hc
  obtain ⟨-, hcount⟩ := hruns
    ⟨⟨["10.0.0.0/x", "10.0.0.0/8"], ["127.0.0.1"]⟩, some ⟨.plain, .uniform (.upTo .debug)⟩⟩ rfl
    [("", .evaluate "10.1.2.3"), ("", .evaluate "127.0.0.1"), ("", .evaluateAddress none)]
  refine ⟨_, _, rfl, hc, hcount.trans ?_⟩
  decide +kernel

end AddressGate
