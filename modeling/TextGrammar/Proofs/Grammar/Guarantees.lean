import Mathlib
import TextGrammar.Proofs.Grammar.Exits
import TextGrammar.Proofs.Grammar.Raising

/-!
# What a reading guarantees

A match of a standard grammar is the piece of the text from the cursor of the attempt to the
cursor behind the match, and a failure lies in the text at that cursor or behind it. Text
that does not match is never a fault: every checked operation of the parsers succeeds, and
only a user's function can end a reading.
-/

namespace TextGrammar

variable {defs : Definitions}

/-- What is read and the rest behind it make up the rest before; what fails, fails at the cursor of
the attempt or behind it. -/
theorem Grammar.parserWithin_consumption {g : Grammar} (hg : g.IsStandard defs) {limit : Nat}
    {s : Cursor} {outcome : Outcome Value}
    (hanswer : (g.parserWithin defs limit s).answer = .ok outcome) :
    match outcome with
    | .matched m => m.rest.text = s.text ∧ m.start = s.pos ∧ s.pos ≤ m.rest.pos ∧
        m.rest.pos ≤ s.text.size ∧ m.text ++ m.rest.rest = s.rest
    | .failed f => f.cursor.text = s.text ∧ s.pos ≤ f.pos ∧ f.pos ≤ s.text.size ∧ f.Placed := by
  have hadvances := (Grammar.parserWithin_advances hg limit s).of_ok hanswer
  cases outcome with
  | matched m =>
    have hm : m.Advances s (g.Nullable defs) := hadvances
    have hend : m.rest.pos ≤ s.text.size := hm.leads.text_eq ▸ m.rest.pos_le
    refine ⟨hm.leads.text_eq, hm.start_eq, hm.leads.pos_le, hend, ?_⟩
    rw [Match.text, hm.start_eq]
    exact hm.leads.textSince_append_rest
  | failed f =>
    have hf : f.LiesFrom s := hadvances
    have hend : f.pos ≤ s.text.size := hf.leads.text_eq ▸ f.cursor.pos_le
    exact ⟨hf.leads.text_eq, hf.leads.pos_le, hend, hf.placed⟩

set_option maxRecDepth 4000 in
/-- A digit in brackets is read, and the text behind it is left. -/
theorem brackets_matched :
    ∃ m, (brackets.parserWithin nestedBrackets 3 (.ofText "[7]x")).answer = .ok (.matched m) ∧
      m.rest.pos = 3 := by
  refine ⟨_, by cbv, rfl⟩

set_option maxRecDepth 4000 in
/-- Reading a digit in brackets is not interrupted. -/
theorem brackets_uninterrupted :
    (∀ e, .raised e ∉ (brackets.parserWithin nestedBrackets 3 (.ofText "[7]x")).events) ∧
      ∀ pos, .refused pos ∉ (brackets.parserWithin nestedBrackets 3 (.ofText "[7]x")).events := by
  obtain ⟨events, hevents, hquiet⟩ : ∃ events,
      (brackets.parserWithin nestedBrackets 3 (.ofText "[7]x")).events = events ∧
        (∀ e, .raised e ∉ events) ∧ ∀ pos, .refused pos ∉ events := ⟨_, by cbv, by simp⟩
  exact hevents ▸ hquiet

/-- The brackets are read and the text behind them is left. -/
theorem brackets_consumption :
    ∃ m, (brackets.parserWithin nestedBrackets 3 (.ofText "[7]x")).answer = .ok (.matched m) ∧
      m.rest.pos = 3 ∧ m.text ++ m.rest.rest = (Cursor.ofText "[7]x").rest := by
  obtain ⟨m, hanswer, hpos⟩ := brackets_matched
  have hconsumption := Grammar.parserWithin_consumption brackets_isStandard hanswer
  exact ⟨m, hanswer, hpos, hconsumption.2.2.2.2⟩

/-- A grammar stands for itself. -/
theorem Operand.resolve_grammar (defs : Definitions) (g : Grammar) :
    (Operand.grammar g).resolve defs = .ok g := rfl

/-- What has been built is read by its parser. -/
theorem read_of_built {operand : Operand} {g : Grammar} (hbuilt : operand.resolve defs = .ok g)
    (limit : Nat) (s : Cursor) : read defs limit operand s = g.parserWithin defs limit s := by
  rw [read, hbuilt, Run.ofExcept, Run.pure_bind]

/-- Reading by a grammar is running its parser. -/
theorem read_grammar (g : Grammar) (limit : Nat) :
    read defs limit (.grammar g) = g.parserWithin defs limit :=
  funext fun s => read_of_built (Operand.resolve_grammar defs g) limit s

/-- Only a user's function can end a reading by what has been built with a fault. If no function
behind it ever raises one, and if all the values that are shown have texts, the reading ends with a
match or a failure, and what the failure says about the text is so. -/
theorem read_answers {operand : Operand} {g : Grammar} (hbuilt : operand.resolve defs = .ok g)
    (hg : g.IsStandard defs) (limit : Nat) (s : Cursor) :
    (∀ e, (read defs limit operand s).answer = .error e →
      .raised e ∈ (read defs limit operand s).events) ∧
    (g.NeverRaises defs → (read defs limit operand s).ShowsTexts →
      ∃ outcome, (read defs limit operand s).answer = .ok outcome ∧
        ∀ f, outcome = .failed f → f.Placed) := by
  rw [read_of_built hbuilt]
  have hyields := Grammar.parserWithin_advances hg limit s
  constructor
  · intro e hanswer
    exact hyields.raised hanswer
  · intro hraises hshows
    cases hanswer : (g.parserWithin defs limit s).answer with
    | error e =>
      have hraised := hyields.raised hanswer
      exact absurd trivial (hraises.avoids_raise limit s hshows _ hraised)
    | ok outcome =>
      refine ⟨outcome, rfl, ?_⟩
      rintro f rfl
      have hlies : f.LiesFrom s := hyields.of_ok hanswer
      exact hlies.placed

/-- No function behind the brackets raises a fault. -/
theorem brackets_neverRaises : brackets.NeverRaises nestedBrackets := by
  intro h hreach
  rcases brackets_reaches hreach with rfl | rfl | rfl | ⟨l, rfl⟩
  · exact ⟨_, resolve_brackets⟩
  all_goals exact trivial

set_option maxRecDepth 4000 in
/-- An unfinished text of nested brackets fails. -/
theorem brackets_failed :
    ∃ f, (brackets.parserWithin nestedBrackets 3 (.ofText "[[7]")).answer = .ok (.failed f) := by
  refine ⟨_, by cbv⟩

set_option maxRecDepth 4000 in
/-- No value is shown where brackets are read. -/
theorem brackets_showsTexts :
    (brackets.parserWithin nestedBrackets 3 (.ofText "[[7]")).ShowsTexts := by
  obtain ⟨events, hevents, hquiet⟩ : ∃ events,
      (brackets.parserWithin nestedBrackets 3 (.ofText "[[7]")).events = events ∧
        ∀ value, .called (.show value) ∉ events := ⟨_, by cbv, by simp⟩
  exact fun value hvalue => absurd (hevents ▸ hvalue) (hquiet value)

/-- An unfinished text of nested brackets fails, and raises no fault. -/
theorem brackets_answers :
    ∃ f, (read nestedBrackets 3 (.grammar brackets) (.ofText "[[7]")).answer = .ok (.failed f) ∧
      f.Placed := by
  have hbuilt := Operand.resolve_grammar nestedBrackets brackets
  obtain ⟨f, hanswer⟩ := brackets_failed
  have hshows := brackets_showsTexts
  rw [← read_of_built hbuilt] at hanswer hshows
  have hanswers := (read_answers hbuilt brackets_isStandard 3 (.ofText "[[7]")).2
  obtain ⟨outcome, houtcome, hplaced⟩ := hanswers brackets_neverRaises hshows
  have hsame : outcome = .failed f := Except.ok.inj (houtcome.symm.trans hanswer)
  exact ⟨f, hanswer, hplaced f hsame⟩

end TextGrammar
