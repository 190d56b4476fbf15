import TextGrammar.Proofs.Grammar.Contract
import TextGrammar.Run

/-!
# Reading a whole text

Asking for the whole text is asking for a sequence: what is read, and then the end. The two are
built, read and reported alike, so what is left over is reported as the end that was not found.
-/

namespace TextGrammar

variable {defs : Definitions}

/-- Reads a value, or the whole text, by a description, which is built first. -/
def Description.readOrReport (defs : Definitions) (limit : Nat) (d : Description) (complete : Bool)
    (s : Cursor) : Run (Except Report Value) :=
  (Run.ofExcept (d.evaluate defs)).bind fun operand =>
    TextGrammar.readOrReport defs limit operand complete s

/-- What a description describes, and the end of the text behind it. -/
def Description.toEnd (d : Description) : Description := .sequence [d, .leaf .finish]

/-- The value of what is read in front of the end. -/
def Value.beforeEnd (v : Value) : Value := .tuple [v, .null]

/-! ### Parsers -/

/-- At the end a sequence with the end adds nothing to the match; before it, it fails like a report
of what is left over. -/
theorem Parser.sequence_finish (parser : Parser Value) (s : Cursor) :
    Parser.map .tuple (Parser.sequence [parser, Leaf.finish.parser]) s =
      (parser s).ifMatched fun m =>
        if m.rest.isAtEnd then .matched (s.matchTo m.value.beforeEnd m.rest)
        else Parser.mismatch m.rest "the end of the input" := by
  rw [Parser.map, Parser.sequence, Run.ifMatched_assoc]
  congr 1
  funext m
  rw [Parser.sequence, Leaf.parser, Parser.map, Parser.finish]
  by_cases hend : m.rest.isAtEnd = true
  · rw [if_pos hend, if_pos hend]
    rfl
  · rw [if_neg hend, if_neg hend, Parser.mismatch, Parser.mismatch]
    cases Failure.mismatch? m.rest "the end of the input" <;> rfl

/-- Reporting on a sequence with the end is reporting on the whole text. -/
theorem Parser.orReport_sequence_finish (parser : Parser Value) (s : Cursor) :
    (Parser.map .tuple (Parser.sequence [parser, Leaf.finish.parser])).orReport false s =
      (parser.orReport true s).bind fun answer => .pure (answer.map Value.beforeEnd) := by
  rw [Parser.orReport, Parser.sequence_finish, Parser.orReport, Run.ifMatched, Run.bind_assoc,
    Run.bind_assoc]
  congr 1
  funext outcome
  cases outcome with
  | failed f => rfl
  | matched m =>
    by_cases hend : m.rest.isAtEnd = true
    · simp only [hend, if_true]
      rfl
    · simp only [hend, Parser.mismatch]
      cases Failure.mismatch? m.rest "the end of the input" <;> rfl

/-! ### Descriptions -/

/-- A description and the end behind it are built just when the description is. -/
theorem Description.evaluate_toEnd (d : Description) :
    d.toEnd.evaluate defs =
      (d.build defs).map fun g => .grammar (.sequence [g, .leaf .finish]) := by
  rw [toEnd, Description.evaluate, build, evaluateAll, evaluateAll, Description.evaluate,
    evaluateAll]
  cases d.evaluate defs with
  | error e => rfl
  | ok operand =>
    have hlength : minSequenceLength ≤ 2 ∧ 2 ≤ maxSequenceLength := by decide
    simp only [sequenceOf, List.length_cons, List.length_nil, hlength, resolveAll]
    cases operand.resolve defs <;> rfl

/-- Reading for a value or a report builds the description first. -/
theorem Description.readOrReport_eq (limit : Nat) (d : Description) (complete : Bool)
    (s : Cursor) :
    d.readOrReport defs limit complete s = (Run.ofExcept (d.build defs)).bind fun g =>
      (g.parserWithin defs limit).orReport complete s := by
  rw [Description.readOrReport, build]
  cases d.evaluate defs <;> rfl

/-- Reading a description and then the end is reading the whole text, and the end adds nothing to
what can be observed. -/
theorem Description.readOrReport_toEnd (limit : Nat) (d : Description) (s : Cursor) :
    d.toEnd.readOrReport defs limit false s =
      (d.readOrReport defs limit true s).bind fun answer =>
        .pure (answer.map Value.beforeEnd) := by
  rw [d.readOrReport_eq, Description.readOrReport, d.evaluate_toEnd]
  cases d.build defs with
  | error e => rfl
  | ok g =>
    have hsequence : (Grammar.sequence [g, .leaf .finish]).parserWithin defs limit =
        Parser.map .tuple (Parser.sequence [g.parserWithin defs limit, Leaf.finish.parser]) := by
      simp only [Grammar.parserWithin_eq, Grammar.parser, parsers]
    rw [Run.ofExcept, Run.pure_bind, ← Parser.orReport_sequence_finish, ← hsequence]
    rfl

/-- Reading the whole text by a description gives a value just when reading the description and
then the end gives that value and none for the end. In all other cases the two end alike: with one
report, which has one message, one position and the same remarks, or with one fault. Whatever they
come to, the same can be observed of both, so they leave the same lines in a log. -/
theorem Description.readOrReport_complete (limit : Nat) (d : Description) (s : Cursor) :
    let whole := d.readOrReport defs limit true s
    let sequenced := (Description.sequence [d, .leaf .finish]).readOrReport defs limit false s
    (∀ v, whole.answer = .ok (.ok v) ↔ sequenced.answer = .ok (.ok (.tuple [v, .null]))) ∧
      ((∃ v, whole.answer = .ok (.ok v)) ∨
        (∃ report, whole.answer = .ok (.error report) ∧
          sequenced.answer = .ok (.error report)) ∨
        ∃ e, whole.answer = .error e ∧ sequenced.answer = .error e) ∧
      sequenced.events = whole.events ∧
      logLines sequenced.events = logLines whole.events := by
  intro whole sequenced
  have hsequenced : sequenced = whole.bind fun answer => .pure (answer.map Value.beforeEnd) :=
    d.readOrReport_toEnd limit s
  cases hanswer : whole.answer with
  | error e =>
    rw [Run.bind_of_error hanswer] at hsequenced
    rw [hsequenced]
    exact ⟨by simp, .inr (.inr ⟨e, rfl, rfl⟩), rfl, rfl⟩
  | ok answer =>
    rw [Run.bind_of_ok hanswer, Run.pure_events, List.append_nil] at hsequenced
    rw [hsequenced]
    cases answer with
    | error report => exact ⟨by simp [Except.map], .inr (.inl ⟨report, rfl, rfl⟩), rfl, rfl⟩
    | ok v => exact ⟨by simp [Except.map, Value.beforeEnd], .inl ⟨v, rfl⟩, rfl, rfl⟩

end TextGrammar
