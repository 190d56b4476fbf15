import TextGrammar.Parser.Basic
import TextGrammar.Proofs.Run.Rules

/-!
# Relations between runs

Two readings by one grammar differ only in what happens at its edges. Whatever relation
between runs holds of the smallest runs with themselves, and of runs one behind the other if
it holds of their parts, holds of two such readings as soon as it holds at the edges.
-/

namespace TextGrammar

/-- An event that raises no fault and neither begins nor ends an attempt at an edge. -/
def Event.IsPlain : Event → Prop
  | .raised _ | .entered _ | .left _ | .recovered _ => False
  | _ => True

/-- A relation between runs that is kept when runs follow one another. The smallest runs in which
no edge is attempted are related to themselves, provided that the calls of the user's functions
raise none but admitted faults. A property of one run is a relation that does not look at the other
run. -/
structure RunRelation where
  Holds {α : Type} : Run α → Run α → Prop
  /-- The faults that a call may raise. -/
  Admits : Call → Fault → Prop
  pure {α : Type} (a : α) : Holds (.pure a) (.pure a)
  emit {event : Event} (h : event.IsPlain) : Holds (.emit event) (.emit event)
  consult {α : Type} (call : Call) {result : Except Fault α}
    (h : ∀ e, result = .error e → Admits call e) :
    Holds (.consult call result) (.consult call result)
  endless {α : Type} (pos : Nat) : Holds (.fault (.endless pos) : Run α) (.fault (.endless pos))
  bind {α β : Type} {run run' : Run α} {next next' : α → Run β} (h : Holds run run')
    (hnext : ∀ a, run.answer = .ok a → Holds (next a) (next' a)) :
    Holds (run.bind next) (run'.bind next')

namespace RunRelation

variable {α β : Type}

/-- The runs of two parsers are related at every cursor. -/
def Relates (R : RunRelation) (parser parser' : Parser α) : Prop :=
  ∀ s, R.Holds (parser s) (parser' s)

/-- Going on with matches keeps the relation; failures are passed on. -/
theorem ifMatched (R : RunRelation) {run run' : Run (Outcome α)}
    {next next' : Match α → Run (Outcome β)} (h : R.Holds run run')
    (hnext : ∀ m, R.Holds (next m) (next' m)) :
    R.Holds (run.ifMatched next) (run'.ifMatched next') := by
  apply R.bind h
  intro outcome _
  cases outcome with
  | matched m => exact hnext m
  | failed f => exact R.pure _

end RunRelation

end TextGrammar
