import TextGrammar.Proofs.Failure.Furthest

/-!
# The choices in a failure

The failed choices that a failure is made of, in the order in which they came to fail: a choice
fails behind those inside of its alternatives, and the alternatives are attempted in order.
-/

namespace TextGrammar

mutual

/-- The failed choices that a failure is made of. Each comes behind those inside of it. -/
def Failure.choices : Failure → List Failure
  | .noneMatched place failures => choicesOfAll failures ++ [.noneMatched place failures]
  | .noNumber _ cause => cause.choices
  | .plain .. | .mismatch .. | .ended .. | .tooWide .. | .noExponent .. | .rejected ..
  | .tooDeep .. => []

/-- The failed choices that some failures are made of, those of earlier failures first. -/
def choicesOfAll : List Failure → List Failure
  | [] => []
  | f :: fs => f.choices ++ choicesOfAll fs

end

namespace Failure

variable {f h : Failure}

/-- The choices among several failures are those of the failures. -/
theorem mem_choicesOfAll {failures : List Failure} :
    h ∈ choicesOfAll failures ↔ ∃ f ∈ failures, h ∈ f.choices := by
  induction failures with
  | nil => simp [choicesOfAll]
  | cons f fs ih => simp [choicesOfAll, ih]

/-- No choice is found in a failure that no choice has a part in. -/
theorem IsSimple.choices_eq_nil : ∀ {f : Failure}, f.IsSimple → f.choices = []
  | .noneMatched _ _, hsimple => hsimple.elim
  | .noNumber _ cause, hsimple => by
    rw [choices]
    exact choices_eq_nil hsimple.1
  | .plain .., _ | .mismatch .., _ | .ended .., _ | .tooWide .., _ | .noExponent .., _
  | .rejected .., _ | .tooDeep .., _ => rfl

/-- All choices that a failure is made of are listed. -/
theorem Within.mem_choices (hwithin : h.Within f) (hchoice : h.IsChoice) : h ∈ f.choices := by
  induction hwithin with
  | refl f =>
    cases f with
    | noneMatched place failures =>
      rw [choices]
      exact List.mem_append_right _ (List.mem_singleton_self _)
    | _ => exact hchoice.elim
  | alternative hf _ ih =>
    rw [choices]
    exact List.mem_append_left _ (mem_choicesOfAll.mpr ⟨_, hf, ih hchoice⟩)
  | cause _ ih =>
    rw [choices]
    exact ih hchoice

end Failure

end TextGrammar
