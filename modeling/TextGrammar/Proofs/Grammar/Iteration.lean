import TextGrammar.Callback
import TextGrammar.Proofs.Grammar.Guarantees
import TextGrammar.Proofs.Parser.Repetition

/-!
# Values one by one

Reading values one by one by a grammar makes the same attempts as reading a repetition of the
grammar and gives the same values. If an attempt ends with a fault, both end with it. Only a fault
that says that there are no more values is replaced by another one, since an iteration would seem to
be over. A fault does not take back the values before it.
-/

namespace TextGrammar

variable {defs : Definitions} {limit : Nat} {operand : Operand} {g : Grammar} {s t : Cursor}
  {ms : List (Match Value)}

/-- Nothing has been read before the first value is asked for. -/
theorem Iteration.take_pending {α : Type} (parser : Parser α) (s : Cursor) (count : Nat) :
    (pending (.ok (parser, s))).take count = (going parser s).take count := by
  cases count <;> rfl

/-- All values are given when at least one more is asked for than there are characters. -/
theorem iterate_take (hbuilt : operand.resolve defs = .ok g)
    (h : (g.parserWithin defs limit).Repeats s ms t) {count : Nat} (hcount : s.remaining < count) :
    (iterate defs limit operand s).take count =
      (ms.map (·.value),
        ⟨(Parser.attempts s ms).flatMap fun p => (g.parserWithin defs limit p).events,
          ((g.parserWithin defs limit t).answer.mapError Iteration.faultOf).map fun _ => ()⟩) := by
  have hstart : iterate defs limit operand s = .pending (.ok (g.parserWithin defs limit, s)) := by
    rw [iterate, hbuilt]
    rfl
  rw [hstart, Iteration.take_pending]
  exact Iteration.take_of_chain h.chain h.stops (Nat.lt_of_le_of_lt h.length_values_le hcount)

/-- The bound on the values of an iteration is large enough. -/
theorem iterate_toList (hbuilt : operand.resolve defs = .ok g)
    (h : (g.parserWithin defs limit).Repeats s ms t) :
    (iterate defs limit operand s).toList =
      (ms.map (·.value),
        ⟨(Parser.attempts s ms).flatMap fun p => (g.parserWithin defs limit p).events,
          ((g.parserWithin defs limit t).answer.mapError Iteration.faultOf).map fun _ => ()⟩) := by
  have hbound : (iterate defs limit operand s).bound = Parser.attemptsIn s := by
    rw [iterate, hbuilt]
    rfl
  rw [Iteration.toList, hbound]
  exact iterate_take hbuilt h (Parser.attemptsIn_enough s)

/-- A probed grammar is read like the grammar itself, and its attempts are noted. -/
theorem Grammar.parserWithin_probed (label : String) (g : Grammar) :
    (Grammar.probed label g).parserWithin defs limit =
      Parser.probed label (g.parserWithin defs limit) := by
  rw [Grammar.parserWithin_eq, Grammar.parserWithin_eq, Grammar.parser]

/-- An optional grammar is read like an optional parser. -/
theorem Grammar.parserWithin_optional (g : Grammar) (default : Value) :
    (Grammar.optional g default).parserWithin defs limit =
      Parser.optional (g.parserWithin defs limit) default := by
  rw [Grammar.parserWithin_eq, Grammar.parserWithin_eq, Grammar.parser]

/-- A repetition of a grammar reads the list of what the grammar reads. -/
theorem Grammar.parserWithin_many (g : Grammar) :
    (Grammar.many g).parserWithin defs limit =
      Parser.map .list (Parser.many (g.parserWithin defs limit)) := by
  rw [Grammar.parserWithin_eq, Grammar.parserWithin_eq, Grammar.parser]

/-- A repetition of a grammar that must match reads the list of what the grammar reads. -/
theorem Grammar.parserWithin_many1 (g : Grammar) :
    (Grammar.many1 g).parserWithin defs limit =
      Parser.map .list (Parser.many1 (g.parserWithin defs limit)) := by
  rw [Grammar.parserWithin_eq, Grammar.parserWithin_eq, Grammar.parser]

/-- Changing the value of a grammar changes the value of a match. -/
theorem Grammar.parserWithin_map (g : Grammar) (f : Value → Except Fault Value) :
    (Grammar.map g f).parserWithin defs limit =
      Parser.mapRun (g.parserWithin defs limit) fun value =>
        Run.consult (.map value) (f value) := by
  rw [Grammar.parserWithin_eq, Grammar.parserWithin_eq, Grammar.parser]

/-- A repetition of a grammar reads the list of the values. -/
theorem readOrReport_many (h : (g.parserWithin defs limit).Repeats s ms t) :
    readOrReport defs limit (.grammar (.many g)) false s =
      ⟨(Parser.attempts s ms).flatMap (fun p => (g.parserWithin defs limit p).events) ++
          (g.parserWithin defs limit).cutEvents t,
        (g.parserWithin defs limit t).answer.map fun _ => .ok (.list (ms.map (·.value)))⟩ := by
  rw [readOrReport, Operand.resolve_grammar, Run.ofExcept, Run.pure_bind,
    Grammar.parserWithin_many, Parser.orReport, Parser.map, h.many_eq]
  cases (g.parserWithin defs limit t).answer with
  | error e => rfl
  | ok outcome => simp [Except.map, Run.ifMatched, Run.bind, Run.matched, Match.withValue]

/-- Values that are read one by one are those of the list that a repetition reads, in the same
order, and asking for more gives no others. Both make the same attempts. An attempt that ends with a
fault ends both of them: the repetition with this fault and the iteration with the same one, or with
another one in its place if it says that there are no more values. The values before it have been
given by then. -/
theorem iterate_agrees (hbuilt : operand.resolve defs = .ok g)
    (hforward : (g.parserWithin defs limit).MovesForward) (s : Cursor) :
    ∃ ms t, (g.parserWithin defs limit).Repeats s ms t ∧
      (∀ count, s.remaining < count →
        (iterate defs limit operand s).take count = (iterate defs limit operand s).toList) ∧
      (iterate defs limit operand s).toList.1 = ms.map (·.value) ∧
      (iterate defs limit operand s).toList.2.answer =
        (((g.parserWithin defs limit t).answer.mapError Iteration.faultOf).map fun _ => ()) ∧
      (readOrReport defs limit (.grammar (.many g)) false s).answer =
        ((g.parserWithin defs limit t).answer.map fun _ => .ok (.list (ms.map (·.value)))) ∧
      (readOrReport defs limit (.grammar (.many g)) false s).events =
        (iterate defs limit operand s).toList.2.events ++
          (g.parserWithin defs limit).cutEvents t ∧
      ∀ label,
        (iterate defs limit (.grammar (.probed label g)) s).toList.2.events =
          (g.parserWithin defs limit).attemptEvents label (Parser.attempts s ms) ∧
        (readOrReport defs limit (.grammar (.many (.probed label g))) false s).events =
          (g.parserWithin defs limit).attemptEvents label (Parser.attempts s ms) ++
            (g.parserWithin defs limit).cutEvents t := by
  obtain ⟨ms, t, h⟩ := Parser.exists_repeats hforward s
  have hlist := iterate_toList hbuilt h
  have hmany := readOrReport_many h
  refine ⟨ms, t, h, ?_, ?_, ?_, ?_, ?_, ?_⟩
  · intro count hcount
    rw [hlist, iterate_take hbuilt h hcount]
  · rw [hlist]
  · rw [hlist]
  · rw [hmany]
  · rw [hlist, hmany]
  · intro label
    have hprobed := h.probed label
    rw [← Grammar.parserWithin_probed] at hprobed
    rw [iterate_toList rfl hprobed, readOrReport_many hprobed, Grammar.parserWithin_probed]
    exact ⟨rfl, rfl⟩

/-- A digit other than zero; a zero is a fault. -/
def divisor : Grammar := .map (.leaf .digit) fun
  | .int 0 => .error (.raised .value "zero")
  | value => .ok value

/-- Reading and changing a leaf only moves forward. -/
theorem movesForward_map_leaf (l : Leaf) (f : Value → Except Fault Value) :
    ((Grammar.map (.leaf l) f).parserWithin ⟨[]⟩ 1).MovesForward := by
  have hstandard : (Grammar.map (.leaf l) f).IsStandard ⟨[]⟩ := by
    apply Grammar.isStandard_of_exits
    simp [Definitions.exits, Grammar.exits]
  exact (Grammar.parserWithin_advances hstandard 1).movesForward

/-- Reading divisors only moves forward. -/
theorem divisor_movesForward : (divisor.parserWithin ⟨[]⟩ 1).MovesForward :=
  movesForward_map_leaf _ _

set_option maxRecDepth 4000 in
/-- The divisors before the zero are given, and then there is a fault. -/
theorem divisor_toList :
    (iterate ⟨[]⟩ 1 (.grammar divisor) (.ofText "1203")).toList.1 = [.int 1, .int 2] ∧
      (iterate ⟨[]⟩ 1 (.grammar divisor) (.ofText "1203")).toList.2.answer =
        .error (.raised .value "zero") := by
  constructor <;> cbv

/-- The zero ends the list and the iteration with a fault, which has given two values by then. -/
theorem divisor_iterate :
    (divisor.parserWithin ⟨[]⟩ 1).MovesForward ∧
      (iterate ⟨[]⟩ 1 (.grammar divisor) (.ofText "1203")).toList.1 = [.int 1, .int 2] ∧
      (readOrReport ⟨[]⟩ 1 (.grammar (.many divisor)) false (.ofText "1203")).answer =
        .error (.raised .value "zero") := by
  refine ⟨divisor_movesForward, divisor_toList.1, ?_⟩
  have hresolve := Operand.resolve_grammar ⟨[]⟩ divisor
  obtain ⟨ms, t, -, -, -, hlast, hmany, -⟩ :=
    iterate_agrees hresolve divisor_movesForward (.ofText "1203")
  rw [divisor_toList.2] at hlast
  cases hanswer : (divisor.parserWithin ⟨[]⟩ 1 t).answer with
  | ok outcome =>
    rw [hanswer] at hlast
    cases hlast
  | error e =>
    rw [hanswer] at hlast
    have hfault : Iteration.faultOf e = .raised .value "zero" := (Except.error.inj hlast).symm
    rw [Iteration.faultOf] at hfault
    split at hfault
    · cases hfault
    · rw [hmany, hanswer, hfault]
      rfl

/-- A digit that cannot be used, since there are no more values. -/
def exhaustedDigit : Grammar :=
  .map (.leaf .digit) (Callback.giveUp .exhausted "no more values")

set_option maxRecDepth 4000 in
/-- Where a function says that there are no more values, the list ends with what it says, but the
iteration ends with another fault, of another kind. -/
theorem exhaustedDigit_ends_differently :
    (exhaustedDigit.parserWithin ⟨[]⟩ 1).MovesForward ∧
      (readOrReport ⟨[]⟩ 1 (.grammar (.many exhaustedDigit)) false (.ofText "1")).answer =
        .error (.raised .exhausted "no more values") ∧
      (iterate ⟨[]⟩ 1 (.grammar exhaustedDigit) (.ofText "1")).toList =
        ([], ⟨[.called (.map (.int 1)), .raised (.raised .exhausted "no more values")],
          .error .exhaustedInside⟩) ∧
      Fault.exhaustedInside.kind = .runtime := by
  refine ⟨movesForward_map_leaf _ _, ?_, ?_, rfl⟩ <;> cbv

end TextGrammar
