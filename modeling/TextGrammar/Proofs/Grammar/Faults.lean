import Mathlib
import TextGrammar.Callback
import TextGrammar.Proofs.Grammar.Contract
import TextGrammar.Proofs.Grammar.Exits
import TextGrammar.Proofs.Grammar.Relation
import TextGrammar.Proofs.Run.Settling

/-!
# Faults of the user's functions

Whatever combinations of parsers are around a user's function, a fault that it raises ends the
whole reading, and nothing is called after it. The one exception is a used-up call stack inside
an attempt at an edge: the innermost attempt turns it into a failure, and the reading goes on
as if this attempt had simply failed.
-/

namespace TextGrammar

variable {defs : Definitions}

/-- An attempt at an edge that does nothing but fail if the call stack would be used up in it. -/
def Parser.edgeOrFailure (parser : Parser Value) : Parser Value := fun s =>
  match (parser s).answer with
  | .ok _ => edge parser s
  | .error e => if e.kind = .recursion then .failed (.tooDeep s) else edge parser s

/-- The parser of a grammar when attempts at edges that use up the call stack do nothing but
fail. -/
def Grammar.failingWithin (defs : Definitions) : Nat → Grammar → Parser Value
  | 0 => Grammar.parser fun _ _ => Parser.refused
  | limit + 1 => Grammar.parser fun label target => Parser.edgeOrFailure fun s =>
    (announced label).bind fun _ =>
      (Run.consult .target (target.resolve defs)).bind fun g => g.failingWithin defs limit s

/-- A run is an attempt at an edge behind a grammar. -/
def Grammar.Attempts (defs : Definitions) (g : Grammar) (t : Cursor) (run : Run (Outcome Value)) :
    Prop :=
  ∃ label target limit, g.Reaches defs (.edge label target) ∧
    edgeWithin defs (limit + 1) label target t = run

/-- A run and what it is without recovered attempts. -/
def settling (Attempt : Cursor → Run (Outcome Value) → Prop) : RunRelation where
  Holds run run' := run'.answer = run.answer ∧ Settles Attempt run.events run'.events run.ending
  pure _ := ⟨rfl, .done⟩
  emit h := ⟨rfl, .plain h .done⟩
  Admits _ _ := True
  consult _ result _ := by
    cases result with
    | ok a => exact ⟨rfl, .plain trivial .done⟩
    | error e => exact ⟨rfl, .plain trivial (.raised e)⟩
  endless _ := ⟨rfl, .broken (by simp [Fault.kind])⟩
  bind := by
    intro α β run run' next next' h hnext
    obtain ⟨hsame, hsettles⟩ := h
    cases hanswer : run.answer with
    | error e =>
      rw [hanswer] at hsame
      rw [Run.bind_of_error hanswer, Run.bind_of_error hsame]
      refine ⟨rfl, ?_⟩
      simpa only [Run.ending, hanswer] using hsettles
    | ok a =>
      rw [hanswer] at hsame
      rw [Run.bind_of_ok hanswer, Run.bind_of_ok hsame]
      obtain ⟨hlater, hgoes⟩ := hnext a hanswer
      refine ⟨hlater, Settles.append ?_ hgoes⟩
      simpa only [Run.ending, hanswer] using hsettles

/-- An attempt settles if what is behind the edge does and if it is counted among the attempts. -/
theorem Parser.settling_edge {Attempt : Cursor → Run (Outcome Value) → Prop}
    {parser parser' : Parser Value} (hattempt : ∀ t, Attempt t (edge parser t))
    (h : (settling Attempt).Relates parser parser') :
    (settling Attempt).Relates (edge parser) (edgeOrFailure parser') := by
  intro s
  obtain ⟨hsame, hsettles⟩ := h s
  cases hanswer : (parser s).answer with
  | ok outcome =>
    rw [hanswer] at hsame
    simp only [Run.ending, hanswer] at hsettles
    simp only [settling, edge, edgeOrFailure, hsame, hanswer, Run.ending]
    exact ⟨trivial, .left hsettles .done⟩
  | error e =>
    rw [hanswer] at hsame
    simp only [Run.ending, hanswer] at hsettles
    by_cases hkind : e.kind = .recursion
    · have hedge : edge parser s = ⟨.entered s.pos :: ((parser s).events ++ [.recovered s.pos]),
          .ok (.failed (.tooDeep s))⟩ := by
        simp only [edge, hanswer, hkind, if_true, List.cons_append]
      have hmember := hattempt s
      rw [hedge] at hmember ⊢
      simp only [settling, edgeOrFailure, hsame, hkind, if_true, Run.ending]
      exact ⟨rfl, .recovered hsettles hkind hmember .done⟩
    · simp only [settling, edge, edgeOrFailure, hsame, hanswer, hkind, if_false, Run.ending]
      exact ⟨trivial, .escaped hsettles hkind⟩

/-- A refused attempt settles as it is. -/
theorem Parser.settling_refused (Attempt : Cursor → Run (Outcome Value) → Prop) :
    (settling Attempt).Relates (refused : Parser Value) refused :=
  fun _ => ⟨rfl, .plain trivial .done⟩

/-- Reading settles to reading in which exhausting attempts fail. -/
theorem Grammar.parserWithin_settles {whole g : Grammar} (hreach : whole.Reaches defs g)
    (limit : Nat) :
    (settling (whole.Attempts defs)).Relates (g.parserWithin defs limit)
      (g.failingWithin defs limit) := by
  induction limit generalizing g with
  | zero =>
    rw [Grammar.parserWithin, Grammar.failingWithin]
    exact Grammar.parser_related _ defs (fun _ _ _ _ _ => trivial)
      fun _ _ _ => Parser.settling_refused _
  | succ limit ih =>
    rw [Grammar.parserWithin, Grammar.failingWithin]
    refine Grammar.parser_related _ defs (fun _ _ _ _ _ => trivial) fun label target hedge => ?_
    have hattempt : ∀ t, whole.Attempts defs t (edgeWithin defs (limit + 1) label target t) :=
      fun t => ⟨label, target, limit, hreach.trans hedge, rfl⟩
    refine Parser.settling_edge hattempt fun t => ?_
    refine RunRelation.resolved _ label (fun _ _ => trivial) fun g' hresolve => ?_
    exact ih ((hreach.trans hedge).trans (.target hresolve (.refl g'))) t

/-- A fault that a user's function raises ends the reading, and nothing follows it, unless it is a
used-up call stack inside an attempt at an edge. In that case the innermost active attempt, and no
other one, turns it into a failure at the cursor where the attempt was made, and the reading goes
on as if the attempt had been nothing but this failure. -/
theorem Grammar.parserWithin_faults (defs : Definitions) (g : Grammar) (limit : Nat) (s : Cursor) :
    (∀ before e after, (g.parserWithin defs limit s).events = before ++ .raised e :: after →
      (e.kind ≠ .recursion ∨ activeAttempts before = [] →
        after = [] ∧ (g.parserWithin defs limit s).answer = .error e) ∧
      (∀ pos outer, e.kind = .recursion → activeAttempts before = pos :: outer →
        ∃ earlier inner later t, before = earlier ++ .entered pos :: inner ∧
          after = .recovered pos :: later ∧ activeAttempts earlier = outer ∧ t.pos = pos ∧
          g.Attempts defs t ⟨.entered pos :: (inner ++ [.raised e, .recovered pos]),
            .ok (.failed (.tooDeep t))⟩)) ∧
    (∀ before pos after, (g.parserWithin defs limit s).events = before ++ .recovered pos :: after →
      ∃ earlier e, before = earlier ++ [.raised e] ∧ e.kind = .recursion) ∧
    (g.failingWithin defs limit s).answer = (g.parserWithin defs limit s).answer ∧
    (g.failingWithin defs limit s).events =
      unrecovered (g.parserWithin defs limit s).events := by
  obtain ⟨hsame, hsettles⟩ := Grammar.parserWithin_settles (.refl g) limit s
  refine ⟨fun before e after hevents => ?_, fun before pos after hevents => ?_, hsame,
    hsettles.unrecovered_eq.symm⟩
  · cases hsettles.fate hevents with
    | ends hescapes hafter hending =>
      refine ⟨fun _ => ⟨hafter, ?_⟩, fun pos outer hkind hactive => ?_⟩
      · rw [Run.ending] at hending
        cases hanswer : (g.parserWithin defs limit s).answer with
        | ok outcome => rw [hanswer] at hending; cases hending
        | error e' => rw [hanswer] at hending; rw [Option.some.inj hending]
      · rcases hescapes with hother | hnone
        · exact absurd hkind hother
        · rw [hnone] at hactive
          cases hactive
    | recovers t earlier inner later hkind hbefore hinner hafter hattempt =>
      have hactive : activeAttempts before = t.pos :: activeAttempts earlier := by
        rw [hbefore, activeAttempts, List.foldl_append]
        exact hinner (t.pos :: activeAttempts earlier)
      constructor
      · rintro (hother | hnone)
        · exact absurd hkind hother
        · rw [hactive] at hnone
          cases hnone
      · intro pos outer _ hpos
        rw [hactive] at hpos
        obtain ⟨rfl, rfl⟩ := List.cons.inj hpos
        exact ⟨earlier, inner, later, t, hbefore, hafter, rfl, rfl, hattempt⟩
  · exact hsettles.isUsedUp_of_recovered hevents

/-- An attempt at an edge stands around the function that tells what the edge leads to. So a fault
that this function raises escapes, but a used-up call stack only makes the attempt fail. -/
theorem edgeWithin_of_error {target : Target Description} {e : Fault}
    (hresolve : target.resolve defs = .error e) (limit : Nat) (label : Option String)
    (s : Cursor) :
    (edgeWithin defs (limit + 1) label target s).answer =
      if e.kind = .recursion then .ok (.failed (.tooDeep s)) else .error e := by
  have hconsult : (Run.consult .target (target.resolve defs)).answer = .error e := by
    rw [Run.consult_answer, hresolve]
  -- Announcing the label never raises, whether there is one or not.
  have hfollowed : (followed defs limit label target s).answer = .error e := by
    cases label with
    | none => rw [followed, announced, Run.pure_bind, Run.bind_of_error hconsult]
    | some label =>
      rw [followed, announced, Run.bind_of_ok (Run.emit_answer _), Run.bind_of_error hconsult]
  simp only [edgeWithin, Parser.edge, hfollowed]
  split <;> rfl

/-- Brackets in which the call stack is used up as soon as there is a digit. -/
def exhaustingBrackets : Definitions :=
  ⟨[⟨"brackets", none, some (.oneOf [bracketed brackets,
    .map (.leaf .digit) (Callback.giveUp .recursion "maximum recursion depth exceeded")])⟩]⟩

set_option maxRecDepth 4000 in
/-- Of two nested attempts the inner one recovers, and the outer one goes on. -/
theorem exhaustingBrackets_faults :
    ∃ before e later, ∃ t : Cursor,
      (brackets.parserWithin exhaustingBrackets 5 (.ofText "[7]")).events =
        before ++ .raised e :: .recovered 1 :: later ∧
      e.kind = .recursion ∧ activeAttempts before = [1, 0] ∧ t.pos = 1 := by
  obtain ⟨after, hevents⟩ : ∃ after,
      (brackets.parserWithin exhaustingBrackets 5 (.ofText "[7]")).events =
        [.entered 0, .called .target, .entered 1, .called .target, .called (.map (.int 7))] ++
          .raised (.raised .recursion "maximum recursion depth exceeded") :: after :=
    ⟨_, by cbv⟩
  have hfaults := Grammar.parserWithin_faults exhaustingBrackets brackets 5 (.ofText "[7]")
  obtain ⟨-, -, later, t, -, rfl, -, hpos, -⟩ := (hfaults.1 _ _ _ hevents).2 1 [0] rfl rfl
  exact ⟨_, _, later, t, hevents, rfl, rfl, hpos⟩

end TextGrammar
