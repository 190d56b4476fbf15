import TextGrammar.Proofs.Failure.Choices
import TextGrammar.Proofs.Grammar.FailureLaws
import TextGrammar.Proofs.Grammar.Guarantees
import TextGrammar.Proofs.Grammar.Tags
import TextGrammar.Run

/-!
# Failed choices in the log

A choice leaves a line in the log when all its alternatives have failed. The log of a reading also
has the lines of choices whose failure has been dropped since, because an option, a repetition or
another choice went on after it. But it has a line for every choice that is part of the failure in
the end, and these lines stand in the order in which the choices failed.
-/

namespace TextGrammar

/-- The line of the log when so many alternatives have failed at a position. -/
def alternativesLine (count pos : Nat) : String :=
  "All " ++ Text.writeNat count ++ " alternatives failed at position " ++ Text.writeNat pos ++ "."

/-- The line of the log when the variants of some names have failed at a position. -/
def variantsLine (names : List String) (pos : Nat) : String :=
  "No variant of " ++ commaSeparated names ++ " matched at position " ++ Text.writeNat pos ++ "."

/-- A line of the log says that a choice has failed. -/
def AnnouncesChoice (line : String) : Prop :=
  (∃ count pos, line = alternativesLine count pos) ∨ ∃ names pos, line = variantsLine names pos

/-- A line says of a failed choice that the alternatives, or the variants of the names, have failed
where it lies. The choice is one that the grammar comes to, and it has failed there in this way. -/
inductive Grammar.Announces (defs : Definitions) (limit : Nat) (g : Grammar) :
    Failure → String → Prop
  | oneOf {parts : List Grammar} {inner : Nat} {s : Cursor} {failures : List Failure}
      (hreach : g.Reaches defs (.oneOf parts)) (hinner : inner ≤ limit)
      (hfailed : ((Grammar.oneOf parts).parserWithin defs inner s).answer =
        .ok (.failed (.noneMatched s failures))) :
      Announces defs limit g (.noneMatched s failures) (alternativesLine failures.length s.pos)
  | sum {variants : List (Variant (Except Fault) Grammar)} {inner : Nat} {s : Cursor}
      {failures : List Failure} (hreach : g.Reaches defs (.sum variants)) (hinner : inner ≤ limit)
      (hfailed : ((Grammar.sum variants).parserWithin defs inner s).answer =
        .ok (.failed (.noneMatched s failures))) :
      Announces defs limit g (.noneMatched s failures)
        (variantsLine (variants.map (·.name)) s.pos)

variable {defs : Definitions} {limit inner : Nat} {g h : Grammar} {alternatives : List Grammar}
  {exhausted : Nat → Nat → Event} {s : Cursor} {failures : List Failure} {f : Failure}

/-- An announcement of a failure is that of a choice. -/
theorem Grammar.Announces.announcesChoice {line : String}
    (hannounces : g.Announces defs limit f line) : AnnouncesChoice line := by
  cases hannounces with
  | oneOf => exact .inl ⟨_, _, rfl⟩
  | sum => exact .inr ⟨_, _, rfl⟩

/-- What a choice announces leaves a line about its failure. -/
theorem Grammar.ChoosesFrom.exists_line (hchooses : h.ChoosesFrom alternatives exhausted)
    (hreach : g.Reaches defs h) (hinner : inner ≤ limit)
    (hfailed : (h.parserWithin defs inner s).answer = .ok (.failed (.noneMatched s failures))) :
    ∃ line, (exhausted failures.length s.pos).logLine? = some line ∧
      g.Announces defs limit (.noneMatched s failures) line := by
  cases hchooses with
  | oneOf => exact ⟨_, rfl, .oneOf hreach hinner hfailed⟩
  | sum => exact ⟨_, rfl, .sum hreach hinner hfailed⟩

/-- That the log has a line for every failed choice is a law of failures. -/
def Grammar.announcement (defs : Definitions) (limit : Nat) (g : Grammar) : FailureLaw where
  Holds events f := ∃ lines, List.Forall₂ (g.Announces defs limit) f.choices lines ∧
    lines.Sublist (logLines events)
  of_isSimple hsimple _ := by
    rw [hsimple.choices_eq_nil]
    exact ⟨[], .nil, List.nil_sublist _⟩
  among hlines hsublist := by
    obtain ⟨lines, hannounces, hlog⟩ := hlines
    exact ⟨lines, hannounces, hlog.trans (hsublist.filterMap _)⟩

/-- The choices in the failures of some parsers have their lines one behind the other. -/
theorem Parser.FailAt.exists_lines {parsers : List (Parser Value)}
    (hfailures : FailAt s parsers failures)
    (hparsers : ∀ p ∈ parsers, p.Obeys (g.announcement defs limit)) :
    ∃ lines, List.Forall₂ (g.Announces defs limit) (choicesOfAll failures) lines ∧
      lines.Sublist (logLines (eventsAt s parsers)) := by
  induction hfailures with
  | nil => exact ⟨[], .nil, List.nil_sublist _⟩
  | @cons parser f parsers failures hfailed _ ih =>
    rw [List.forall_mem_cons] at hparsers
    obtain ⟨first, hfirst, hlogged⟩ := hparsers.1 s f hfailed
    obtain ⟨later, hlater, hlogged'⟩ := ih hparsers.2
    refine ⟨first ++ later, List.rel_append hfirst hlater, ?_⟩
    rw [eventsAt, List.flatMap_cons, logLines_append]
    exact hlogged.append hlogged'

/-- A choice leaves its own line behind those of the choices in its alternatives. -/
theorem Grammar.ChoosesFrom.obeys_announcement (hchooses : h.ChoosesFrom alternatives exhausted)
    (hreach : g.Reaches defs h) (hinner : inner ≤ limit)
    (halternatives : ∀ p ∈ alternatives,
      (p.parserWithin defs inner).Obeys (g.announcement defs limit)) :
    (h.parserWithin defs inner).Obeys (g.announcement defs limit) := by
  intro s f hfailed
  have hchoice := hfailed
  rw [hchooses.parserWithin_eq] at hchoice
  obtain ⟨failures, rfl, hall, hevents⟩ := Parser.exists_of_choice_failed hchoice
  obtain ⟨lines, hlines, hlogged⟩ := hall.exists_lines (List.forall_mem_map.mpr halternatives)
  obtain ⟨line, hline, hannounces⟩ := hchooses.exists_line hreach hinner hfailed
  refine ⟨lines ++ [line], ?_, ?_⟩
  · rw [Failure.choices]
    exact List.rel_append hlines (.cons hannounces .nil)
  · rw [hchooses.parserWithin_eq, hevents, logLines_append]
    refine hlogged.append ?_
    simp [logLines, hline]

/-- Whatever choice is part of the failure of a grammar has its line in the log. -/
theorem Grammar.parserWithin_obeys_announcement (hg : g.IsStandard defs) (limit : Nat) :
    (g.parserWithin defs limit).Obeys (g.announcement defs limit) :=
  Grammar.parserWithin_obeys hg fun _ hinner _ _ _ hreach hchooses halternatives =>
    hchooses.obeys_announcement hreach hinner halternatives

/-- Every failed choice in the failure of a reading has been announced. The log of the reading has
a line for each of them, in the order in which they failed: those inside of a choice before the
choice itself and those of earlier alternatives first. The line is about the choice that has failed
in this way, with as many failures and at this position. If the log has no line about a failed
choice, then there is no choice anywhere in the failure. -/
theorem read_failed_announced {operand : Operand} (hbuilt : operand.resolve defs = .ok g)
    (hg : g.IsStandard defs) (hfailed : (read defs limit operand s).answer = .ok (.failed f)) :
    (∃ lines, List.Forall₂ (g.Announces defs limit) f.choices lines ∧
      lines.Sublist (logLines (read defs limit operand s).events)) ∧
    ((∀ line ∈ logLines (read defs limit operand s).events, ¬AnnouncesChoice line) →
      ∀ h : Failure, h.Within f → ¬h.IsChoice) := by
  rw [read_of_built hbuilt] at hfailed ⊢
  obtain ⟨lines, hannounces, hlogged⟩ :=
    Grammar.parserWithin_obeys_announcement hg limit s f hfailed
  refine ⟨⟨lines, hannounces, hlogged⟩, fun hnone h hwithin hchoice => ?_⟩
  -- a choice in the failure would have a line
  obtain ⟨index, hindex, hget⟩ := List.mem_iff_getElem.mp (hwithin.mem_choices hchoice)
  have hline : index < lines.length := hannounces.length_eq ▸ hindex
  exact hnone _ (hlogged.subset (List.getElem_mem hline))
    (hannounces.get hindex hline).announcesChoice

/-- Some letters, and behind them another letter or a mark. -/
def lettersAndMark : Grammar :=
  .sequence [
    .many (.oneOf [.leaf (.literal "w"), .leaf (.literal "x"), .leaf (.literal "y")]),
    .oneOf [.leaf (.literal "z"), markEdge]]

/-- No parser of a user's own is in the letters and the mark. -/
theorem lettersAndMark_isStandard : lettersAndMark.IsStandard namedDigitOrSign := by
  apply Grammar.isStandard_of_exits
  intro parser hmem
  simp [lettersAndMark, markEdge, namedDigitOrSign, digitOrSign, leafVariant, Definitions.exits,
    Grammar.exits, exitsOfParts, exitsOfSum, exitsOfNamed, exitsOfBuilt, exitsOfBuiltSteps,
    exitsOfTarget] at hmem

/-- How the grammar fails behind two letters. -/
def missingMark : Failure :=
  let s := (Cursor.ofText "xya").skip 2
  .noneMatched s [.mismatch s "'z'" 'a',
    .noneMatched s [.mismatch s "a digit" 'a', .mismatch s "a sign" 'a']]

/-- The log of that reading. -/
def missingMarkLog : List String :=
  ["All 3 alternatives failed at position 2.", "No variant of digit, sign matched at position 2.",
    "All 2 alternatives failed at position 2."]

set_option maxRecDepth 8000 in
/-- The letters and the mark fail where the mark is missing. -/
theorem lettersAndMark_failed :
    (lettersAndMark.parserWithin namedDigitOrSign 1 (.ofText "xya")).answer =
      .ok (.failed missingMark) := by
  cbv

set_option maxRecDepth 8000 in
/-- The log of the letters and the mark where the mark is missing. -/
theorem lettersAndMark_logLines :
    logLines (lettersAndMark.parserWithin namedDigitOrSign 1 (.ofText "xya")).events =
      missingMarkLog := by
  cbv

/-- The repetition has ended at a choice that failed, which has left a line as well. The two choices
in the failure have the lines behind it, in their order. -/
theorem lettersAndMark_announced :
    lettersAndMark.IsStandard namedDigitOrSign ∧
      (read namedDigitOrSign 1 (.grammar lettersAndMark) (.ofText "xya")).answer =
        .ok (.failed missingMark) ∧
      logLines (read namedDigitOrSign 1 (.grammar lettersAndMark) (.ofText "xya")).events =
        missingMarkLog ∧
      ∃ lines, List.Forall₂ (lettersAndMark.Announces namedDigitOrSign 1) missingMark.choices
        lines ∧ lines.Sublist missingMarkLog := by
  have hbuilt := Operand.resolve_grammar namedDigitOrSign lettersAndMark
  have hfailed := lettersAndMark_failed
  have hlog := lettersAndMark_logLines
  rw [← read_of_built hbuilt] at hfailed hlog
  obtain ⟨⟨lines, hannounces, hlogged⟩, -⟩ :=
    read_failed_announced hbuilt lettersAndMark_isStandard hfailed
  exact ⟨lettersAndMark_isStandard, hfailed, hlog, lines, hannounces, hlog ▸ hlogged⟩

end TextGrammar
