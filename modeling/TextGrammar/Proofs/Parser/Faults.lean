import TextGrammar.Proofs.Parser.Relation

/-!
# Where faults come from

A run ends with a fault only if one of its parts does, or a function that is called in it. The one
fault that comes from nowhere else is that of a repetition that never ends. This is a property of
one run, so combinations of parsers keep it as they keep relations between runs.
-/

namespace TextGrammar

variable {α β : Type} {F : Fault → Prop}

/-! ### Results and runs -/

/-- If there is a fault, it is one of some. -/
def FaultsIn (F : Fault → Prop) (result : Except Fault α) : Prop := ∀ e, result = .error e → F e

/-- A value is no fault. -/
theorem faultsIn_ok (a : α) : FaultsIn F (.ok a) := fun _ he => by cases he

/-- A single fault is one of some if it is. -/
theorem faultsIn_error {e : Fault} (h : F e) : FaultsIn F (.error e : Except Fault α) := by
  intro e' he
  cases he
  exact h

/-- The faults of two computations one behind the other are those of each. -/
theorem FaultsIn.bind {result : Except Fault α} {next : α → Except Fault β}
    (h : FaultsIn F result) (hnext : ∀ a, FaultsIn F (next a)) : FaultsIn F (result.bind next) := by
  cases result with
  | error e => exact faultsIn_error (h e rfl)
  | ok a => exact hnext a

/-- Changing the value changes no fault. -/
theorem FaultsIn.map {result : Except Fault α} (h : FaultsIn F result) (f : α → β) :
    FaultsIn F (result.map f) := by
  cases result with
  | error e => exact faultsIn_error (h e rfl)
  | ok a => exact faultsIn_ok _

namespace Run

/-- If a run ends with a fault, it is one of some. -/
def FaultsIn (F : Fault → Prop) (run : Run α) : Prop := TextGrammar.FaultsIn F run.answer

/-- A run that goes on as another one ends has no faults but those of the two. -/
theorem FaultsIn.bind {run : Run α} {next : α → Run β} (h : run.FaultsIn F)
    (hnext : ∀ a, run.answer = .ok a → (next a).FaultsIn F) : (run.bind next).FaultsIn F := by
  cases hanswer : run.answer with
  | error e =>
    rw [bind_of_error hanswer]
    exact faultsIn_error (h e hanswer)
  | ok a =>
    rw [bind_of_ok hanswer]
    exact hnext a hanswer

end Run

/-- The faults of a parser are some. -/
def Parser.FaultsIn (F : Fault → Prop) (parser : Parser α) : Prop := ∀ s, (parser s).FaultsIn F

end TextGrammar
