import TextGrammar.Proofs.Parser.Contract

/-!
# Following the furthest failure

A choice leads to the one of its failures that got furthest, and if that is the failure of a choice
again, from there to the next one. A choice lies where its alternatives were attempted and not where
they failed. So the way can pass over an alternative that is a choice, even if a failure inside of
it got further than where the way ends. It does not if such an alternative always leads.
-/

namespace TextGrammar.Failure

variable {f g : Failure} {place : Cursor} {failures : List Failure}

/-- Whether a failure is that of a choice. -/
def IsChoice : Failure → Prop
  | noneMatched _ _ => True
  | _ => False

/-- A failure that no choice has a part in. A missing number lies where its cause does. -/
def IsSimple : Failure → Prop
  | noneMatched _ _ => False
  | noNumber place cause => cause.IsSimple ∧ cause.cursor = place
  | _ => True

/-- The failures that a failure is made of: itself, the alternatives of a choice, and the cause of
a missing number. -/
inductive Within : Failure → Failure → Prop
  | refl (f : Failure) : Within f f
  | alternative {f g : Failure} {place : Cursor} {failures : List Failure} (hf : f ∈ failures)
      (h : Within g f) : Within g (noneMatched place failures)
  | cause {g cause : Failure} {place : Cursor} (h : Within g cause) :
      Within g (noNumber place cause)

/-- A failure is made of choices that all have an alternative and of failures without choices. -/
inductive HasReasons : Failure → Prop
  | simple {f : Failure} (h : f.IsSimple) : HasReasons f
  | noneMatched {place : Cursor} {failures : List Failure} (hsome : failures ≠ [])
      (hreasons : ∀ f ∈ failures, HasReasons f) : HasReasons (noneMatched place failures)

/-- Wherever an alternative of a choice is a choice itself, it is the one that got furthest. -/
inductive ChoicesLead : Failure → Prop
  | other {f : Failure} (h : ¬f.IsChoice) : ChoicesLead f
  | noneMatched {place : Cursor} {failures : List Failure}
      (hfurthest : ∀ f ∈ failures, f.IsChoice → furthest? failures = some f)
      (hlead : ∀ f ∈ failures, ChoicesLead f) : ChoicesLead (noneMatched place failures)

/-! ### One choice -/

/-- A failure that is not that of a choice is its own deepest one. -/
theorem deepest_of_not_isChoice (h : ¬f.IsChoice) : f.deepest = .ok f := by
  cases f with
  | noneMatched _ _ => exact absurd trivial h
  | _ => rw [deepest]; simp

/-- The deepest failure of a choice is that of its furthest alternative. -/
theorem deepest_noneMatched (h : furthest? failures = some f) (place : Cursor) :
    (noneMatched place failures).deepest = f.deepest := by
  rw [deepest]
  split
  · next g hg => rw [Option.some.inj (h.symm.trans hg)]
  · next hnone => cases h.symm.trans hnone

/-- The first of two failures got furthest if the second one does not lie behind it. -/
theorem furthest?_pair (h : g.pos ≤ f.pos) : furthest? [f, g] = some f := by
  simp only [furthest?, if_neg (Nat.not_lt.mpr h)]

/-- Of two alternatives the first one is followed unless the second one got further. -/
theorem deepest_pair (f g : Failure) (h : g.pos ≤ f.pos) (place : Cursor) :
    (noneMatched place [f, g]).deepest = f.deepest :=
  deepest_noneMatched (furthest?_pair h) place

/-- Among some failures there is a furthest one. -/
theorem exists_furthest? (h : failures ≠ []) : ∃ f, furthest? failures = some f := by
  cases hfurthest : furthest? failures with
  | none => exact absurd (furthest?_eq_none_iff.mp hfurthest) h
  | some f => exact ⟨f, rfl⟩

/-! ### Failures without choices -/

/-- A simple failure is not that of a choice. -/
theorem IsSimple.not_isChoice (h : f.IsSimple) : ¬f.IsChoice := by
  cases f with
  | noneMatched _ _ => exact h.elim
  | _ => exact not_false

/-- The failure at an unexpected character or at the end has no choice in it. -/
theorem isSimple_unexpected (s : Cursor) (expected : String) :
    (s.unexpected expected).IsSimple := by
  unfold Cursor.unexpected
  split <;> exact trivial

/-- The failure of a missing number has no choice in it. -/
theorem isSimple_noNumber (s : Cursor) (expected : String) :
    (noNumber s (s.unexpected expected)).IsSimple :=
  ⟨isSimple_unexpected s expected, s.cursor_unexpected expected⟩

/-- All that a failure without choices is made of lies at one place. -/
theorem Within.pos_eq (h : g.Within f) (hsimple : f.IsSimple) : g.pos = f.pos := by
  induction h with
  | refl => rfl
  | alternative => exact hsimple.elim
  | cause _ ih =>
    obtain ⟨hcause, hcursor⟩ := hsimple
    rw [ih hcause, pos, hcursor]
    rfl

/-- A failure with reasons that is not that of a choice is simple. -/
theorem HasReasons.isSimple (h : f.HasReasons) (hchoice : ¬f.IsChoice) : f.IsSimple := by
  cases h with
  | simple hsimple => exact hsimple
  | noneMatched _ _ => exact absurd trivial hchoice

/-- Of two alternatives the first one may be a choice if the second one does not lie behind it. -/
theorem ChoicesLead.pair (hf : f.ChoicesLead) (hg : ¬g.IsChoice) (hpos : g.pos ≤ f.pos)
    (place : Cursor) : (Failure.noneMatched place [f, g]).ChoicesLead := by
  have hfurthest := furthest?_pair hpos
  refine .noneMatched ?_ ?_
  · simpa using ⟨fun _ => hfurthest, fun hchoice => absurd hchoice hg⟩
  · simpa using ⟨hf, .other hg⟩

/-! ### The whole way -/

/-- The way from failure to failure ends at one that is not that of a choice. -/
theorem HasReasons.exists_deepest (h : f.HasReasons) :
    ∃ d, f.deepest = .ok d ∧ ¬d.IsChoice ∧ d.Within f := by
  induction h with
  | @simple f hsimple =>
    have hchoice := hsimple.not_isChoice
    exact ⟨f, deepest_of_not_isChoice hchoice, hchoice, .refl f⟩
  | @noneMatched place failures hsome _ ih =>
    obtain ⟨g, hfurthest⟩ := exists_furthest? hsome
    have hg := furthest?_mem hfurthest
    obtain ⟨d, hdeepest, hchoice, hwithin⟩ := ih g hg
    refine ⟨d, ?_, hchoice, .alternative hg hwithin⟩
    rw [deepest_noneMatched hfurthest, hdeepest]

/-- The alternatives of a choice that is placed well are placed well behind it. -/
theorem Placed.alternative (h : (Failure.noneMatched place failures).Placed) (hf : f ∈ failures) :
    place.pos ≤ f.pos ∧ f.Placed := by
  cases h with
  | noneMatched hleads hplaced => exact ⟨(hleads f hf).pos_le, hplaced f hf⟩

/-- The way never goes back. -/
theorem HasReasons.pos_le_deepest (h : f.HasReasons) (hplaced : f.Placed) {d : Failure}
    (hdeepest : f.deepest = .ok d) : f.pos ≤ d.pos := by
  induction h with
  | simple hsimple =>
    rw [deepest_of_not_isChoice hsimple.not_isChoice] at hdeepest
    cases hdeepest
    exact Nat.le_refl _
  | @noneMatched place failures hsome _ ih =>
    obtain ⟨g, hfurthest⟩ := exists_furthest? hsome
    have hg := furthest?_mem hfurthest
    obtain ⟨hle, hplaced⟩ := hplaced.alternative hg
    rw [deepest_noneMatched hfurthest] at hdeepest
    exact Nat.le_trans hle (ih g hg hplaced hdeepest)

/-- The way ends no further back than where any alternative of the first choice failed or, if it
is a choice, was attempted. -/
theorem HasReasons.alternative_le_deepest (h : (Failure.noneMatched place failures).HasReasons)
    (hplaced : (Failure.noneMatched place failures).Placed) {d : Failure}
    (hdeepest : (Failure.noneMatched place failures).deepest = .ok d) :
    ∀ f ∈ failures, f.pos ≤ d.pos := by
  cases h with
  | simple hsimple => exact hsimple.elim
  | noneMatched hsome hreasons =>
    obtain ⟨g, hfurthest⟩ := exists_furthest? hsome
    have hg := furthest?_mem hfurthest
    rw [deepest_noneMatched hfurthest] at hdeepest
    have hle := (hreasons g hg).pos_le_deepest (hplaced.alternative hg).2 hdeepest
    intro f hf
    exact Nat.le_trans (pos_le_furthest hfurthest f hf) hle

/-- If choices among alternatives always lead, nothing that a failure is made of and that is not a
choice lies behind the end of the way. -/
theorem HasReasons.le_deepest (h : f.HasReasons) (hplaced : f.Placed) (hlead : f.ChoicesLead)
    {d : Failure} (hdeepest : f.deepest = .ok d) (hwithin : g.Within f) (hchoice : ¬g.IsChoice) :
    g.pos ≤ d.pos := by
  induction h with
  | simple hsimple =>
    rw [deepest_of_not_isChoice hsimple.not_isChoice] at hdeepest
    cases hdeepest
    exact Nat.le_of_eq (hwithin.pos_eq hsimple)
  | @noneMatched place failures hsome hreasons ih =>
    have hall := HasReasons.alternative_le_deepest (.noneMatched hsome hreasons) hplaced hdeepest
    cases hlead with
    | other hother => exact absurd trivial hother
    | noneMatched hfurthest hlead =>
      cases hwithin with
      | refl => exact absurd trivial hchoice
      | @alternative f _ _ _ hf hwithin =>
        by_cases hf' : f.IsChoice
        · -- the way goes through this alternative
          rw [deepest_noneMatched (hfurthest f hf hf')] at hdeepest
          exact ih f hf (hplaced.alternative hf).2 (hlead f hf) hdeepest hwithin
        · have hpos := hwithin.pos_eq ((hreasons f hf).isSimple hf')
          exact hpos ▸ hall f hf

end TextGrammar.Failure
