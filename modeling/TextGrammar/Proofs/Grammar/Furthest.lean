import TextGrammar.Proofs.Grammar.Exits
import TextGrammar.Proofs.Grammar.Failing
import TextGrammar.Proofs.Grammar.Guarantees

/-!
# The furthest failure of a grammar

Where a reading fails, the way from the failure to the furthest one of its alternatives, and so on,
ends at the reason. That is the failure that got furthest of all only if no choice was passed over
on the way: a choice lies where its alternatives were attempted, so it does not show how far they
got.
-/

namespace TextGrammar

open Failure

variable {defs : Definitions} {g : Grammar} {limit : Nat} {s : Cursor} {f : Failure}

/-- Where the way from failure to failure ends. It ends at a failure that is not that of a choice,
and no alternative of the first choice lies behind it. If choices among alternatives always lead,
then it is the failure that got furthest of all. -/
theorem Grammar.failed_deepest (hg : g.IsProper defs)
    (hfailed : (g.parserWithin defs limit s).answer = .ok (.failed f)) :
    ∃ d, f.deepest = .ok d ∧ ¬d.IsChoice ∧ d.Within f ∧ f.pos ≤ d.pos ∧
      (∀ place failures, f = .noneMatched place failures → ∀ h ∈ failures, h.pos ≤ d.pos) ∧
      (f.ChoicesLead → ∀ h : Failure, h.Within f → ¬h.IsChoice → h.pos ≤ d.pos) := by
  have hreasons := (Grammar.explains_parserWithin hg limit s f hfailed).hasReasons
  have hlies : f.LiesFrom s :=
    (Grammar.parserWithin_advances hg.standard limit s).of_ok hfailed
  obtain ⟨d, hdeepest, hchoice, hwithin⟩ := hreasons.exists_deepest
  refine ⟨d, hdeepest, hchoice, hwithin, ?_, ?_, ?_⟩
  · exact hreasons.pos_le_deepest hlies.placed hdeepest
  · rintro place failures rfl
    exact hreasons.alternative_le_deepest hlies.placed hdeepest
  · intro hlead h hwithin hchoice
    exact hreasons.le_deepest hlies.placed hlead hdeepest hwithin hchoice

/-- Nested brackets are proper. -/
theorem brackets_isProper : brackets.IsProper nestedBrackets := by
  refine ⟨brackets_isStandard, fun h hreach => ?_⟩
  rcases brackets_reaches hreach with rfl | rfl | rfl | ⟨l, rfl⟩
  · trivial
  · exact List.cons_ne_nil _ _
  all_goals trivial

/-- How two brackets around a digit fail if none of them is closed. -/
def unclosedBrackets : Failure :=
  let s := Cursor.ofText "[[7"
  .noneMatched s [
    .noneMatched (s.skip 1) [.ended (s.skip 3) "']'", .mismatch (s.skip 1) "a digit" '['],
    .mismatch s "a digit" '[']

set_option maxRecDepth 4000 in
/-- Brackets that are not closed fail. -/
theorem brackets_unclosed :
    (brackets.parserWithin nestedBrackets 4 (.ofText "[[7")).answer =
      .ok (.failed unclosedBrackets) := by
  cbv

/-- The alternatives that lead to the failure of the brackets are the furthest ones. -/
theorem unclosedBrackets_choicesLead : unclosedBrackets.ChoicesLead := by
  refine .pair (.pair (.other ?_) ?_ (by decide) _) ?_ (by decide) _
  all_goals exact not_false

/-- Where two brackets are not closed, the failure leads to the end of the text, behind which none
of the others lies. -/
theorem unclosedBrackets_deepest :
    (brackets.parserWithin nestedBrackets 4 (.ofText "[[7")).answer =
        .ok (.failed unclosedBrackets) ∧
      unclosedBrackets.ChoicesLead ∧
      ∃ d, unclosedBrackets.deepest = .ok d ∧
        ∀ h : Failure, h.Within unclosedBrackets → ¬h.IsChoice → h.pos ≤ d.pos := by
  obtain ⟨d, hdeepest, -, -, -, -, hall⟩ :=
    Grammar.failed_deepest brackets_isProper brackets_unclosed
  exact ⟨brackets_unclosed, unclosedBrackets_choicesLead, d, hdeepest,
    hall unclosedBrackets_choicesLead⟩

/-- A letter, or a choice between a literal and another letter. -/
def letterOrChoice : Grammar :=
  .oneOf [.leaf (.literal "y"), .oneOf [.leaf (.literal "ab"), .leaf (.literal "x")]]

/-- The letter and the choice are proper. -/
theorem letterOrChoice_isProper : letterOrChoice.IsProper ⟨[]⟩ := by
  have hinner : (Grammar.oneOf [.leaf (.literal "ab"), .leaf (.literal "x")]).IsProper ⟨[]⟩ :=
    .oneOf (List.cons_ne_nil _ _) (by simp [Grammar.isProper_leaf])
  exact .oneOf (List.cons_ne_nil _ _) (by simp [Grammar.isProper_leaf, hinner])

/-- How the grammar fails at a text whose first letter begins the literal. -/
def passedOver : Failure :=
  let s := Cursor.ofText "ac"
  .noneMatched s [.mismatch s "'y'" 'a',
    .noneMatched s [.mismatch (s.skip 1) "'b' of 'ab'" 'c', .mismatch s "'x'" 'a']]

set_option maxRecDepth 4000 in
/-- Neither the letter nor the choice matches, though the choice gets further. -/
theorem letterOrChoice_failed :
    (letterOrChoice.parserWithin ⟨[]⟩ 1 (.ofText "ac")).answer = .ok (.failed passedOver) := by
  cbv

/-- The choice got further than the letter, but it is passed over since both were attempted at the
same place. -/
theorem letterOrChoice_passes_over :
    letterOrChoice.IsProper ⟨[]⟩ ∧
      (letterOrChoice.parserWithin ⟨[]⟩ 1 (.ofText "ac")).answer = .ok (.failed passedOver) ∧
      ∃ d h : Failure, passedOver.deepest = .ok d ∧ h.Within passedOver ∧ ¬h.IsChoice ∧
        d.pos < h.pos := by
  have hdeepest : passedOver.deepest = .ok (.mismatch (.ofText "ac") "'y'" 'a') := by
    rw [passedOver, deepest_pair]
    · exact deepest_of_not_isChoice not_false
    · exact Nat.le_refl 0
  refine ⟨letterOrChoice_isProper, letterOrChoice_failed, _,
    .mismatch ((Cursor.ofText "ac").skip 1) "'b' of 'ab'" 'c', hdeepest, ?_, not_false, by decide⟩
  exact .alternative (List.mem_cons_of_mem _ List.mem_cons_self)
    (.alternative List.mem_cons_self (.refl _))

end TextGrammar
