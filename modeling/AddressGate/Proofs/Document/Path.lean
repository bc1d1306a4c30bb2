/-
  Reading several characters.

  * `Leads R s cs t`: with one step `R` for each character, the characters lead
    from the state `s` to the state `t`;
  * `Reads` is the step of each of the readers, and `State.ReadsOpen` one of a
    state in which a document that ends is cut off (`State.Unfinished`);
  * `run_of_leads` and `Refuses`: what a path means for the document that begins
    with it.
-/
import Mathlib.Tactic.SplitIfs
import AddressGate.Document.Loading

namespace AddressGate.Document

/-- The characters lead from one state to another. -/
inductive Leads {σ : Type} (R : σ → Char → σ → Prop) : σ → List Char → σ → Prop
  | nil (s : σ) : Leads R s [] s
  | cons {s t u : σ} {c : Char} {cs : List Char} (h : R s c t) (hs : Leads R t cs u) :
      Leads R s (c :: cs) u

namespace Leads

variable {σ τ : Type} {R : σ → Char → σ → Prop} {S : τ → Char → τ → Prop} {s t u : σ}
  {cs ds : List Char} {c : Char}

theorem single (h : R s c t) : Leads R s [c] t := .cons h (.nil t)

theorem append (h : Leads R s cs t) (h' : Leads R t ds u) : Leads R s (cs ++ ds) u := by
  induction h with
  | nil => exact h'
  | cons hc _ ih => exact .cons hc (ih h')

/-- One more step at the end. -/
theorem snoc (h : Leads R s cs t) (hc : R t c u) : Leads R s (cs ++ [c]) u := h.append (single hc)

theorem exists_of_append (h : Leads R s (cs ++ ds) u) : ∃ t, Leads R s cs t ∧ Leads R t ds u := by
  induction cs generalizing s with
  | nil => exact ⟨s, .nil s, h⟩
  | cons c cs ih =>
    obtain _ | ⟨hc, hs⟩ := h
    obtain ⟨t, h1, h2⟩ := ih hs
    exact ⟨t, .cons hc h1, h2⟩

/-- A reader within another takes the same path. -/
theorem map (f : σ → τ) (hf : ∀ {s c t}, R s c t → S (f s) c (f t)) (h : Leads R s cs t) :
    Leads S (f s) cs (f t) := by
  induction h with
  | nil => exact .nil _
  | cons hc _ ih => exact .cons (hf hc) ih

/-- Characters that change nothing. -/
theorem stay (h : ∀ c ∈ cs, R s c s) : Leads R s cs s := by
  induction cs with
  | nil => exact .nil s
  | cons c cs ih => exact .cons (h c (by simp)) (ih fun d hd => h d (by simp [hd]))

end Leads

/-! ## The steps of the readers -/

/-- The character is read as part of the number. -/
def NumberPart.Reads (p : NumberPart) (c : Char) (q : NumberPart) : Prop := p.step c = .ok (some q)

/-- The character is read as part of the text. -/
def Quotation.Reads (p : Quotation) (c : Char) (q : Quotation) : Prop := p.step c = .ok (.more q)

/-- The character is read as part of the ignored text. -/
def SkippedQuotation.Reads (p : SkippedQuotation) (c : Char) (q : SkippedQuotation) : Prop :=
  p.step c = .ok (some q)

/-- The character is read as part of the ignored value. -/
def Skipped.Reads (s : Skipped) (c : Char) (t : Skipped) : Prop := s.step c = .ok (some t)

namespace State

/-- The character is read. -/
def Reads (s : State) (c : Char) (t : State) : Prop := s.step c = .ok t

/-- A document that ends in this state is cut off. -/
def Unfinished (s : State) : Prop := ∃ cause, s.finish = .error cause ∧ cause.kind = .truncated

/-- The character is read, and without it the document is cut off. -/
def ReadsOpen (s : State) (c : Char) (t : State) : Prop := s.Unfinished ∧ s.Reads c t

variable {s t u : State} {cs ds : List Char} {c : Char}

theorem leads_of_open (h : Leads ReadsOpen s cs t) : Leads Reads s cs t := h.map id fun hc => hc.2

/-! ## Runs -/

/-- A path is the beginning of a run. -/
theorem run_of_leads (h : Leads Reads s cs t) (o : Nat) :
    ∃ o', ∀ ds, s.run o (cs ++ ds) = t.run o' ds := by
  induction h generalizing o with
  | nil s => exact ⟨o, fun ds => rfl⟩
  | @cons s t u c cs hc _ ih =>
    obtain ⟨o', h⟩ := ih (o + c.utf8Size)
    refine ⟨o', fun ds => ?_⟩
    rw [List.cons_append, run, show s.step c = .ok t from hc]
    exact h ds

/-- A document that goes on like this has a fault, whatever follows. -/
def Refuses (s : State) (cs : List Char) : Prop := ∀ o ds, ∃ f, s.run o (cs ++ ds) = .error f

theorem refuses_of_leads (h : Leads Reads s cs t) (h' : t.Refuses ds) : s.Refuses (cs ++ ds) := by
  intro o es
  obtain ⟨o', hrun⟩ := run_of_leads h o
  rw [List.append_assoc, hrun]
  exact h' o' es

theorem refuses_append (h : s.Refuses cs) (ds : List Char) : s.Refuses (cs ++ ds) := by
  intro o es
  rw [List.append_assoc]
  exact h o (ds ++ es)

theorem refuses_of_step {f : Fault} (h : s.step c = .error f) (cs : List Char) :
    s.Refuses (c :: cs) := by
  intro o ds
  rw [List.cons_append, run, h]
  exact ⟨_, rfl⟩

/-! ## States without a way out -/

/-- A state that no document leaves: a value that is out of place, a list that
    is named twice, a third list. -/
inductive Dead : State → Prop
  | mistyped (expected : Expected) (v : Scalar) : Dead (mistyped expected v)
  | repeated (l : ListName) : Dead (repeated l)
  | lastElement (d : Draft) : Dead (lastElement d true)

theorem Dead.step (h : s.Dead) (ht : s.step c = .ok t) : t.Dead := by
  unfold State.step at ht
  split_ifs at ht with hc
  · cases ht; exact h
  · cases h with
    | mistyped expected v =>
      rw [stepOther] at ht
      cases hv : v.step expected c with
      | error f => rw [hv] at ht; cases ht
      | ok v' => rw [hv] at ht; cases ht; exact .mistyped _ _
    | repeated l => cases ht
    | lastElement d =>
      simp only [stepOther, stepLastElement] at ht
      split_ifs at ht
      · simp_all

theorem Dead.finish (h : s.Dead) : ∃ cause, s.finish = .error cause := by
  cases h <;> exact ⟨_, rfl⟩

theorem Dead.refuses (h : s.Dead) : s.Refuses [] := by
  intro o ds
  rw [List.nil_append]
  induction ds generalizing s o with
  | nil =>
    obtain ⟨cause, hc⟩ := h.finish
    rw [run, hc]
    exact ⟨_, rfl⟩
  | cons c ds ih =>
    rw [run]
    cases hs : s.step c with
    | error f => exact ⟨_, rfl⟩
    | ok t => exact ih (h.step hs) _

/-- A step that fails or leads to a dead end. -/
theorem refuses_of_dead_step (h : ∀ t, s.step c = .ok t → t.Dead) (cs : List Char) :
    s.Refuses (c :: cs) := by
  cases hs : s.step c with
  | error f => exact refuses_of_step hs cs
  | ok t => exact refuses_of_leads (.single hs) (refuses_append (h t hs).refuses cs)

end State

end AddressGate.Document
