/-
  Results that come with a report.

  A `Reported ε α` is a result of type `α` with the events of type `ε` that
  were reported on the way to it, the oldest first.  Sequencing two of them
  puts the events of the second behind those of the first.
-/

namespace AddressGate

/-- A result and the events reported on the way to it, oldest first. -/
structure Reported (ε α : Type) where
  result : α
  events : List ε
  deriving DecidableEq, Repr

namespace Reported

variable {ε δ α β : Type}

instance : Monad (Reported ε) where
  pure a := ⟨a, []⟩
  bind r f := ⟨(f r.result).result, r.events ++ (f r.result).events⟩

/-- Reports one event. -/
def report (e : ε) : Reported ε Unit := ⟨(), [e]⟩

/-- Reports some events in order. -/
def reportAll (es : List ε) : Reported ε Unit := ⟨(), es⟩

/-- The same result, each event seen as one of another type. -/
def mapEvents (f : ε → δ) (r : Reported ε α) : Reported δ α := ⟨r.result, r.events.map f⟩

@[simp]
theorem result_pure (a : α) : (pure a : Reported ε α).result = a := rfl

@[simp]
theorem events_pure (a : α) : (pure a : Reported ε α).events = [] := rfl

@[simp]
theorem result_bind (r : Reported ε α) (f : α → Reported ε β) :
    (r >>= f).result = (f r.result).result := rfl

@[simp]
theorem events_bind (r : Reported ε α) (f : α → Reported ε β) :
    (r >>= f).events = r.events ++ (f r.result).events := rfl

@[simp]
theorem events_report (e : ε) : (report e).events = [e] := rfl

@[simp]
theorem events_reportAll (es : List ε) : (reportAll es).events = es := rfl

@[simp]
theorem result_mapEvents (f : ε → δ) (r : Reported ε α) : (r.mapEvents f).result = r.result := rfl

@[simp]
theorem events_mapEvents (f : ε → δ) (r : Reported ε α) :
    (r.mapEvents f).events = r.events.map f := rfl

end Reported

end AddressGate
