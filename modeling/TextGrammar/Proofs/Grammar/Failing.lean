import TextGrammar.Proofs.Failure.Furthest
import TextGrammar.Proofs.Grammar.FailureLaws

/-!
# How failures arise

A failure that a grammar answers with is not made up: a choice in it stands for alternatives that
have failed one behind the other, and has been announced after them. All other failures are
without choices. That is a law of failures, so it has to be shown at choices alone.
-/

namespace TextGrammar

/-- An event announces at a position that so many alternatives have failed there. -/
def Event.Exhausts (count pos : Nat) : Event → Prop
  | .alternativesExhausted count' pos' => count' = count ∧ pos' = pos
  | .variantsExhausted names pos' => names.length = count ∧ pos' = pos
  | _ => False

/-- A failure arises in the course of some events. The failures of the alternatives of a choice
arise one behind the other, and then the choice is announced. -/
inductive Failure.Arises : List Event → Failure → Prop
  | simple {f : Failure} (h : f.IsSimple) : Arises [] f
  | noneMatched {s : Cursor} {attempts : List (List Event × Failure)} {event : Event}
      (hsome : attempts ≠ []) (hattempts : ∀ a ∈ attempts, Arises a.1 a.2)
      (hevent : event.Exhausts attempts.length s.pos) :
      Arises (attempts.flatMap (·.1) ++ [event]) (.noneMatched s (attempts.map (·.2)))
  | among {events events' : List Event} {f : Failure} (h : Arises events f)
      (hsublist : events.Sublist events') : Arises events' f

/-- A failure without choices arises whatever happens. -/
theorem Failure.Arises.of_isSimple {f : Failure} (h : f.IsSimple) (events : List Event) :
    f.Arises events :=
  (Arises.simple h).among (List.nil_sublist _)

/-- What arises has reasons. -/
theorem Failure.Arises.hasReasons {events : List Event} {f : Failure} (h : f.Arises events) :
    f.HasReasons := by
  induction h with
  | simple h => exact .simple h
  | noneMatched hsome _ _ ih =>
    refine .noneMatched (by simpa using hsome) fun f hf => ?_
    obtain ⟨a, ha, rfl⟩ := List.mem_map.mp hf
    exact ih a ha
  | among _ _ ih => exact ih

/-- Arising is a law of failures. -/
def Failure.arising : FailureLaw where
  Holds events f := f.Arises events
  of_isSimple := .of_isSimple
  among := .among

variable {α : Type}

/-- The failure that a run answers with arises in the run. -/
def Run.Explains (run : Run (Outcome α)) : Prop :=
  ∀ f, run.answer = .ok (.failed f) → f.Arises run.events

namespace Parser

/-- The failures of a parser arise in its runs. -/
def Explains (parser : Parser α) : Prop := ∀ s, (parser s).Explains

/-- The failures of some parsers at a cursor arise one behind the other. -/
theorem FailAt.exists_attempts {s : Cursor} {parsers : List (Parser α)} {failures : List Failure}
    (h : FailAt s parsers failures) (hexplains : ∀ p ∈ parsers, p.Explains) :
    ∃ attempts : List (List Event × Failure), attempts.length = parsers.length ∧
      attempts.flatMap (·.1) = eventsAt s parsers ∧ attempts.map (·.2) = failures ∧
      ∀ a ∈ attempts, a.2.Arises a.1 := by
  induction h with
  | nil => exact ⟨[], rfl, rfl, rfl, by simp⟩
  | @cons parser f parsers failures hfailed _ ih =>
    obtain ⟨attempts, hlength, hevents, rfl, harises⟩ :=
      ih fun p hp => hexplains p (List.mem_cons_of_mem _ hp)
    have hfirst := hexplains parser List.mem_cons_self s f hfailed
    refine ⟨((parser s).events, f) :: attempts, ?_, ?_, rfl, ?_⟩
    · rw [List.length_cons, List.length_cons, hlength]
    · rw [List.flatMap_cons, hevents, eventsAt, eventsAt, List.flatMap_cons]
    · exact List.forall_mem_cons.mpr ⟨hfirst, harises⟩

/-- A choice with alternatives explains its failure if it announces how many there are. -/
theorem explains_choice {exhausted : Nat → Nat → Event} {parsers : List (Parser α)}
    (hsome : parsers ≠ []) (h : ∀ p ∈ parsers, p.Explains)
    (hexhausted : ∀ pos, (exhausted parsers.length pos).Exhausts parsers.length pos) :
    (choice exhausted parsers).Explains := by
  intro s f hfailed
  obtain ⟨failures, rfl, hall, hevents⟩ := exists_of_choice_failed hfailed
  obtain ⟨attempts, hlength, hbefore, rfl, harises⟩ := hall.exists_attempts h
  have hattempts : attempts ≠ [] := by
    rw [← List.length_pos_iff, hlength]
    exact List.length_pos_iff.mpr hsome
  rw [hevents, ← hbefore, List.length_map]
  exact .noneMatched hattempts harises (hlength ▸ hexhausted s.pos)

end Parser

/-! ### Grammars -/

/-- A choice in a grammar has an alternative. -/
def Grammar.HasAlternatives : Grammar → Prop
  | .oneOf parts => parts ≠ []
  | .sum variants => variants ≠ []
  | _ => True

/-- A grammar is made of the library's own parts, and every choice in it or behind its edges has an
alternative. -/
structure Grammar.IsProper (defs : Definitions) (g : Grammar) : Prop where
  standard : g.IsStandard defs
  alternatives : ∀ h, g.Reaches defs h → h.HasAlternatives

section Grammars

variable {defs : Definitions} {g h : Grammar} {alternatives : List Grammar}
  {exhausted : Nat → Nat → Event}

/-- Unless it is an edge, a library grammar with alternatives is proper if its parts are. -/
theorem Grammar.IsProper.of_parts (hg : g.HasAlternatives)
    (hedge : ∀ label target, g ≠ .edge label target) (hcustom : ∀ parser, g ≠ .custom parser)
    (hparts : ∀ p ∈ g.parts, p.IsProper defs) : g.IsProper defs := by
  constructor
  · intro parser hreach
    cases hreach with
    | refl => exact hcustom parser rfl
    | part hp hreach => exact (hparts _ hp).standard parser hreach
    | target => exact hedge _ _ rfl
  · intro h hreach
    cases hreach with
    | refl => exact hg
    | part hp hreach => exact (hparts _ hp).alternatives h hreach
    | target => exact absurd rfl (hedge _ _)

/-- A leaf is proper, since nothing is behind it. -/
theorem Grammar.isProper_leaf (l : Leaf) : (Grammar.leaf l).IsProper defs :=
  .of_parts trivial (by simp) (by simp) (by simp [Grammar.parts])

/-- A choice between proper grammars is proper if there is one to choose. -/
theorem Grammar.IsProper.oneOf {parts : List Grammar} (hsome : parts ≠ [])
    (hparts : ∀ p ∈ parts, p.IsProper defs) : (Grammar.oneOf parts).IsProper defs :=
  .of_parts hsome (by simp) (by simp) hparts

/-- A grammar that has alternatives chooses from some. -/
theorem Grammar.ChoosesFrom.ne_nil (h : g.ChoosesFrom alternatives exhausted)
    (hsome : g.HasAlternatives) : alternatives ≠ [] := by
  cases h with
  | oneOf => exact hsome
  | sum => exact mt List.map_eq_nil_iff.mp hsome

/-- What a choice announces counts its alternatives, or names them. -/
theorem Grammar.ChoosesFrom.exhausts (h : g.ChoosesFrom alternatives exhausted) (pos : Nat) :
    (exhausted alternatives.length pos).Exhausts alternatives.length pos := by
  cases h with
  | oneOf => exact ⟨rfl, rfl⟩
  | sum => simp [Event.Exhausts]

/-- Every failure of a proper grammar arises in the reading that it ends, at every nesting limit. -/
theorem Grammar.explains_parserWithin (hg : g.IsProper defs) (limit : Nat) :
    (g.parserWithin defs limit).Explains := by
  have hobeys : (g.parserWithin defs limit).Obeys Failure.arising := by
    apply Grammar.parserWithin_obeys hg.standard
    intro inner _ h alternatives exhausted hreach hchooses hparts
    have hsome := hchooses.ne_nil (hg.alternatives h hreach)
    rw [hchooses.parserWithin_eq]
    apply Parser.explains_choice (by simpa using hsome) (List.forall_mem_map.mpr hparts)
    rw [List.length_map]
    exact hchooses.exhausts
  exact hobeys

end Grammars

end TextGrammar
