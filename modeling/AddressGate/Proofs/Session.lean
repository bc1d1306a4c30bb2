/-
  What the directives of the console change in a run: which lines are shown,
  and nothing else.

  * `Session.perform_on` is the step lemma: a call is answered the same on every
    console, and leaves it;
  * `Session.run_on` says so of a run, by induction;
  * `Session.started_lines`: a run that sets up the console first; the answers
    for any text of directives, the lines for those that are about no span.
-/
import AddressGate.Proofs.Filter
import AddressGate.Session

namespace AddressGate

/-- An answered call with the lines that a console shows. -/
def Answered.shownOn (c : Console) (a : Answered) : Shown := ⟨a, c.lines a.time a.events⟩

theorem Console.lines_congr {c c' : Console} (hs : c.style = c'.style)
    (hf : ∀ e, c.filter.admits e = true ↔ c'.filter.admits e = true) : c.lines = c'.lines := by
  funext time es
  have hadmits : c.filter.admits = c'.filter.admits := funext fun e => Bool.eq_iff_iff.2 (hf e)
  have hline : c.line time = c'.line time := funext fun e => by rw [line, line, hs]
  rw [lines, lines, hadmits, hline]

namespace Session

variable {s : Session} {c₀ : Console}

/-- The program with another console. -/
def on (s : Session) (c : Console) : Session := { s with console := some c }

/-- **A call is answered the same on every console, and leaves it.** -/
theorem perform_on (hs : s.console = some c₀) (c : Console) (call : Call) :
    (s.on c).perform call =
      ⟨((s.perform call).result.1.on c, (s.perform call).result.2), (s.perform call).events⟩ ∧
    (s.perform call).result.1.console = some c₀ := by
  obtain ⟨r, console⟩ := s
  obtain rfl : console = some c₀ := hs
  cases call with
  | document text =>
    simp only [perform]
    cases Rules.ofDocument text with
    | ok loaded => exact ⟨rfl, rfl⟩
    | error e => exact ⟨rfl, rfl⟩
  | environment value? =>
    simp only [perform]
    cases Rules.ofEnvironment value? with
    | ok loaded => exact ⟨rfl, rfl⟩
    | error e => exact ⟨rfl, rfl⟩
  | _ => exact ⟨rfl, rfl⟩

/-- **A run is the same on every console but for the lines.** -/
theorem run_on (hs : s.console = some c₀) (c : Console) (calls : List (String × Call)) :
    (s.on c).run calls = (s.run calls).map fun x => x.toAnswered.shownOn c := by
  induction calls generalizing s with
  | nil => rfl
  | cons call calls ih =>
    obtain ⟨time, call⟩ := call
    obtain ⟨hcall, hnext⟩ := perform_on hs c call
    rw [run, step, hcall]
    show _ :: ((s.perform call).result.1.on c).run calls = _
    rw [ih hnext]
    rfl

/-- The console is ready, and shows so. -/
theorem started_eq_cons (style : LineStyle) (directives : Option String) (time : String)
    (calls : List (String × Call)) : started style directives time calls =
      Answered.shownOn ⟨style, Filter.ofText? directives⟩ ⟨time, .installed, [.consoleReady]⟩ ::
        (initial.on ⟨style, Filter.ofText? directives⟩).run calls := rfl

/-- A run with directives is the run without, but for the lines. -/
theorem started_eq_map (style : LineStyle) (directives : Option String) (time : String)
    (calls : List (String × Call)) : started style directives time calls =
      (started style none time calls).map fun x =>
        x.toAnswered.shownOn ⟨style, Filter.ofText? directives⟩ := by
  rw [started_eq_cons, started_eq_cons style none, List.map_cons]
  congr 1
  exact run_on (s := initial.on ⟨style, Filter.ofText? none⟩) rfl _ calls

/-- Texts with the same test give the same run. -/
theorem started_congr {directives directives' : Option String}
    (hs : Filter.Spanless directives) (hs' : Filter.Spanless directives')
    (h : ∀ e, Filter.Passes e directives ↔ Filter.Passes e directives') (style : LineStyle)
    (time : String) (calls : List (String × Call)) :
    started style directives time calls = started style directives' time calls := by
  have hlines : Console.lines ⟨style, Filter.ofText? directives⟩ =
      Console.lines ⟨style, Filter.ofText? directives'⟩ :=
    Console.lines_congr rfl fun e => by
      rw [Filter.admits_ofText?_iff hs, Filter.admits_ofText?_iff hs', h]
  rw [started_eq_map, started_eq_map style directives']
  refine List.map_congr_left fun x _ => ?_
  rw [Answered.shownOn, Answered.shownOn, hlines]

/-- **What the directives of the console change.**  Each call has the answer and
    reports the events that it has without directives.  Where no part of the
    text is about spans, the lines are those of the events that pass the test of
    the directives, in order; so parts with pairwise different targets may change
    places, and of two parts with the same target the earlier one may be
    dropped. -/
theorem started_lines (style : LineStyle) (directives : Option String) (time : String)
    (calls : List (String × Call)) :
    (started style directives time calls).map Shown.toAnswered =
      (started style none time calls).map Shown.toAnswered ∧
    (Filter.Spanless directives →
      (∀ s ∈ started style directives time calls, s.lines =
        (s.events.filter fun e => Filter.Passes e directives).map
          (Console.line ⟨style, Filter.ofText? directives⟩ s.time)) ∧
      (∀ text text', directives = some text → (Filter.parts text).Perm (Filter.parts text') →
        Filter.Separate text →
        started style directives time calls = started style (some text') time calls) ∧
      (∀ text text' as p bs q cs d d', directives = some text →
        Filter.parts text = as ++ p :: bs ++ q :: cs →
        Filter.parts text' = as ++ bs ++ q :: cs →
        Directive.Spelled p d → Directive.Spelled q d' → d.target = d'.target →
        started style directives time calls = started style (some text') time calls)) := by
  refine ⟨?_, fun hspan => ⟨?_, ?_, ?_⟩⟩
  · rw [started_eq_map, List.map_map]
    rfl
  · intro s hs
    rw [started_eq_map, List.mem_map] at hs
    obtain ⟨x, -, rfl⟩ := hs
    show (x.events.filter _).map _ = _
    congr 1
    refine List.filter_congr fun e _ => ?_
    rw [Bool.eq_iff_iff, decide_eq_true_iff]
    exact Filter.admits_ofText?_iff hspan
  · rintro text text' rfl hp hs
    have hspan' : Filter.Spanless (some text') := hspan.of_parts fun part => hp.mem_iff.2
    exact started_congr hspan hspan' (fun e => Filter.passes_of_perm hp hs) style time calls
  · rintro text text' as p bs q cs d d' rfl h h' hp hq ht
    have hspan' : Filter.Spanless (some text') := hspan.of_parts fun part hpart => by
      rw [h', List.append_assoc, List.mem_append] at hpart
      rw [h, List.append_assoc, List.cons_append, List.mem_append]
      exact hpart.imp id (List.mem_cons_of_mem p)
    exact started_congr hspan hspan' (fun e => Filter.passes_of_drop h h' hp hq ht) style time calls

/-- The first part is overridden by the last, and the other two may change
    places.  That the console is ready is not shown, the warning of the load is. -/
theorem started_lines_rearranged :
    Filter.Spanless (some "debug,goodies=warn,info") ∧
    started .plain (some "debug,goodies=warn,info") "" [("", .load "10.0.0.0/x" "")] =
      started .plain (some "info,goodies=warn") "" [("", .load "10.0.0.0/x" "")] ∧
    (started .plain (some "info,goodies=warn") "" [("", .load "10.0.0.0/x" "")]).map
      (·.lines.length) = [0, 1] := by
  have hspan : Filter.Spanless (some "debug,goodies=warn,info") := by decide +kernel
  obtain ⟨-, hlines⟩ := started_lines .plain (some "debug,goodies=warn,info") ""
    [("", .load "10.0.0.0/x" "")]
  obtain ⟨-, -, hdrop⟩ := hlines hspan
  obtain ⟨-, hlines'⟩ := started_lines .plain (some "goodies=warn,info") ""
    [("", .load "10.0.0.0/x" "")]
  obtain ⟨-, hperm, -⟩ := hlines' (by decide +kernel)
  have hdebug : Directive.Spelled "debug".toList ⟨[], .upTo .debug⟩ :=
    Directive.spelled_iff.2 (by decide +kernel)
  have hinfo : Directive.Spelled "info".toList ⟨[], .upTo .info⟩ :=
    Directive.spelled_iff.2 (by decide +kernel)
  refine ⟨hspan, ?_, by decide +kernel⟩
  rw [hdrop _ "goodies=warn,info" [] _ ["goodies=warn".toList] _ [] _ _ rfl (by decide +kernel)
    (by decide +kernel) hdebug hinfo rfl]
  exact hperm _ "info,goodies=warn" rfl (by decide +kernel) (by decide +kernel)

end Session

end AddressGate
