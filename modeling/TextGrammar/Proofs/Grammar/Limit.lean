import TextGrammar.Proofs.Grammar.Contract
import TextGrammar.Proofs.Grammar.Relation
import TextGrammar.Proofs.Parser.Events

/-!
# The nesting limit

A limit that refuses no attempt is as good as every larger one: the runs under both are the
same, events and all. The limit is only looked at where an edge is attempted, so this holds
for every grammar, also for one with a user's own parsers in it.
-/

namespace TextGrammar

variable {defs : Definitions}

/-- Unless an attempt in it is refused, a run is the same as another one. -/
def Run.Persists {α : Type} (run run' : Run α) : Prop :=
  run.Avoids Event.IsRefusal → run' = run

/-- What persists in two runs persists when they follow one another. -/
theorem Run.Persists.bind {α β : Type} {run run' : Run α} {next next' : α → Run β}
    (h : run.Persists run') (hnext : ∀ a, run.answer = .ok a → (next a).Persists (next' a)) :
    (run.bind next).Persists (run'.bind next') := by
  intro havoids
  obtain ⟨hfirst, hsecond⟩ := havoids.of_bind
  rw [h hfirst]
  cases hanswer : run.answer with
  | error e => rw [bind_of_error hanswer, bind_of_error hanswer]
  | ok a => rw [bind_of_ok hanswer, bind_of_ok hanswer, hnext a hanswer (hsecond a hanswer)]

/-- Being the same unless an attempt is refused is kept when runs follow one another. -/
def persistence : RunRelation where
  Holds := Run.Persists
  pure _ _ := rfl
  emit _ _ := rfl
  Admits _ _ := True
  consult _ _ _ _ := rfl
  endless _ _ := rfl
  bind := Run.Persists.bind

/-- An edge only adds events, so a refusal behind it is one of its own events. -/
theorem Parser.persists_edge {parser parser' : Parser Value}
    (h : persistence.Relates parser parser') :
    persistence.Relates (edge parser) (edge parser') := by
  intro s havoids
  have hinside : (parser s).Avoids Event.IsRefusal := fun event hevent =>
    havoids event (events_subset_edge parser s hevent)
  simp only [edge, h s hinside]

/-- A refused attempt persists in anything. -/
theorem Parser.persists_refused (parser : Parser Value) : persistence.Relates refused parser :=
  fun s havoids => absurd trivial (havoids (.refused s.pos) List.mem_cons_self)

/-- A limit that refuses no attempt is invisible: every larger one gives the same run. -/
theorem Grammar.parserWithin_persists (g : Grammar) {limit limit' : Nat} (hle : limit ≤ limit')
    (s : Cursor) : (g.parserWithin defs limit s).Persists (g.parserWithin defs limit' s) := by
  induction limit generalizing g limit' s with
  | zero =>
    rw [Grammar.parserWithin_eq, Grammar.parserWithin_eq]
    exact Grammar.parser_related persistence defs (fun _ _ _ _ _ => trivial)
      (fun _ _ _ => Parser.persists_refused _) s
  | succ limit ih =>
    obtain ⟨larger, rfl⟩ : ∃ larger, limit' = larger + 1 := ⟨limit' - 1, by omega⟩
    rw [Grammar.parserWithin_eq, Grammar.parserWithin_eq]
    -- behind an edge both limits are one smaller, so the induction goes on with what it leads to
    refine Grammar.parser_related persistence defs (fun _ _ _ _ _ => trivial)
      (fun label target _ => Parser.persists_edge fun t => ?_) s
    exact persistence.resolved label (fun _ _ => trivial) fun g' _ => ih g' (by omega) t

end TextGrammar
