import TextGrammar.Proofs.Failure.Furthest
import TextGrammar.Proofs.Leaf.Table

/-!
# Laws of failures

Only a choice puts failures together and has something to announce about it. Every other combination
of parsers hands a failure on as it is, or fails by itself and without a choice. So a law that ties
a failure to the events before it holds of all combinations if it holds of failures without choices,
is kept when more has happened, and is kept by choices.
-/

namespace TextGrammar

/-- A law of failures and of the events in whose course they come about. It holds of failures that
no choice has a part in, and it is kept when more happens before, in between or after. -/
structure FailureLaw where
  Holds : List Event → Failure → Prop
  of_isSimple {f : Failure} (h : f.IsSimple) (events : List Event) : Holds events f
  among {events events' : List Event} {f : Failure} (h : Holds events f)
    (hsublist : events.Sublist events') : Holds events' f

variable {α β : Type} {law : FailureLaw}

/-- The law holds of the failure that a run answers with and of its events. -/
def Run.Obeys (law : FailureLaw) (run : Run (Outcome α)) : Prop :=
  ∀ f, run.answer = .ok (.failed f) → law.Holds run.events f

/-- The law holds of all failures of a parser. -/
def Parser.Obeys (law : FailureLaw) (parser : Parser α) : Prop := ∀ s, (parser s).Obeys law

namespace Run

/-- A match has no failure that could break a law. -/
theorem obeys_matched (m : Match α) : (matched m).Obeys law := by
  rintro f ⟨⟩

/-- A failure without choices obeys every law. -/
theorem obeys_failed {f : Failure} (h : f.IsSimple) : (failed f : Run (Outcome α)).Obeys law := by
  rintro f ⟨⟩
  exact law.of_isSimple h _

/-- One run after another one obeys a law if the second one does. -/
theorem Obeys.bind {run : Run α} {next : α → Run (Outcome β)}
    (hnext : ∀ a, run.answer = .ok a → (next a).Obeys law) : (run.bind next).Obeys law := by
  intro f hfailed
  cases hanswer : run.answer with
  | error e =>
    rw [bind_of_error hanswer] at hfailed
    cases hfailed
  | ok a =>
    rw [bind_of_ok hanswer] at hfailed ⊢
    exact law.among (hnext a hanswer f hfailed) (List.sublist_append_right _ _)

/-- Going on with a match obeys a law if the attempt and what follows do. -/
theorem Obeys.ifMatched {run : Run (Outcome α)} {next : Match α → Run (Outcome β)}
    (h : run.Obeys law) (hnext : ∀ m, (next m).Obeys law) : (run.ifMatched next).Obeys law := by
  intro f hfailed
  cases hanswer : run.answer with
  | error e =>
    rw [ifMatched_of_error hanswer] at hfailed
    cases hfailed
  | ok outcome =>
    cases outcome with
    | failed g =>
      rw [ifMatched_of_failed hanswer] at hfailed ⊢
      cases hfailed
      exact h f hanswer
    | matched m =>
      rw [ifMatched_of_matched hanswer] at hfailed ⊢
      exact law.among (hnext m f hfailed) (List.sublist_append_right _ _)

end Run

namespace Parser

variable {parser : Parser α}

/-- Changing the value keeps to a law. -/
theorem obeys_map (h : parser.Obeys law) (f : α → β) : (map f parser).Obeys law :=
  fun s => (h s).ifMatched fun _ => Run.obeys_matched _

/-- Calling a function on the value keeps to a law. -/
theorem obeys_mapRun (h : parser.Obeys law) (f : α → Run β) : (mapRun parser f).Obeys law :=
  fun s => (h s).ifMatched fun _ => .bind fun _ _ => Run.obeys_matched _

/-- A tested character keeps to every law, since there is no choice in its failures. -/
theorem obeys_satisfy (test : Char → Run Bool) (expected : String) :
    (satisfy test expected).Obeys law := by
  intro s
  cases hrest : s.rest with
  | nil =>
    rw [satisfy_of_nil hrest]
    exact Run.obeys_failed trivial
  | cons c cs =>
    rw [satisfy_of_cons hrest]
    apply Run.Obeys.bind
    intro passed _
    cases passed with
    | true => exact Run.obeys_matched _
    | false => exact Run.obeys_failed trivial

/-- An option never fails, so it keeps to every law. -/
theorem obeys_optional (parser : Parser α) (default : α) :
    (optional parser default).Obeys law := by
  intro s
  apply Run.Obeys.bind
  intro outcome _
  cases outcome <;> exact Run.obeys_matched _

/-- A repetition never fails, so it keeps to every law. -/
theorem obeys_many (parser : Parser α) : (many parser).Obeys law :=
  fun _ => .bind fun _ _ => Run.obeys_matched _

/-- A repetition that must match keeps to a law if its parser does. -/
theorem obeys_many1 (h : parser.Obeys law) : (many1 parser).Obeys law :=
  fun s => (h s).ifMatched fun _ => .bind fun _ _ => Run.obeys_matched _

/-- A tag keeps to a law. -/
theorem obeys_retagged (h : parser.Obeys law) (tag : Option String) :
    (retagged tag parser).Obeys law :=
  fun s => (h s).ifMatched fun _ => Run.obeys_matched _

/-- A probe keeps to a law. -/
theorem obeys_probed (h : parser.Obeys law) (label : String) : (probed label parser).Obeys law :=
  fun s => .bind fun _ _ => h s

/-- A sequence keeps to a law if its parts do. -/
theorem obeys_sequence {parsers : List (Parser α)} (h : ∀ p ∈ parsers, p.Obeys law) :
    (sequence parsers).Obeys law := by
  induction parsers with
  | nil => exact fun _ => Run.obeys_matched _
  | cons parser parsers ih =>
    intro s
    have hlater := ih fun p hp => h p (List.mem_cons_of_mem _ hp)
    apply (h parser List.mem_cons_self s).ifMatched
    intro m
    exact (hlater m.rest).ifMatched fun _ => Run.obeys_matched _

/-! ### Products and edges -/

/-- No choice has a part in the failure for a rejected value. -/
theorem obeys_reject (field : Option String) (value : Value) :
    (reject field value : Parser α).Obeys law := by
  refine fun s => .bind fun f hf => ?_
  rw [Run.consult_answer] at hf
  obtain ⟨writable, rfl⟩ := Failure.exists_of_rejected? hf
  exact Run.obeys_failed trivial

/-- A step keeps to a law if its parser does. -/
theorem obeys_stepFields {step : Step Run (Parser Value)} (h : step.parser.Obeys law) :
    (stepFields step).Obeys law := by
  intro s
  apply (h s).ifMatched
  intro m
  apply Run.Obeys.bind
  intro accepted _
  cases accepted with
  | true => exact Run.obeys_matched _
  | false => exact obeys_reject step.field m.value s

section Steps

variable {steps : List (Step Run (Parser Value))}

/-- Steps keep to a law if their parsers do. -/
theorem obeys_laterFields (h : ∀ step ∈ steps, step.parser.Obeys law) (skips : Bool) :
    (laterFields skips steps).Obeys law := by
  induction steps with
  | nil => exact fun _ => Run.obeys_matched _
  | cons step steps ih =>
    intro s
    have hlater := ih fun step hstep => h step (List.mem_cons_of_mem _ hstep)
    apply Run.Obeys.bind
    intro place _
    apply (obeys_stepFields (h step List.mem_cons_self) place).ifMatched
    intro m
    exact (hlater m.rest).ifMatched fun _ => Run.obeys_matched _

/-- The steps of a product keep to a law if their parsers do. -/
theorem obeys_fields (h : ∀ step ∈ steps, step.parser.Obeys law) (skips : Bool) :
    (fields skips steps).Obeys law := by
  cases steps with
  | nil => exact fun _ => Run.obeys_matched _
  | cons step steps =>
    intro s
    have hlater := obeys_laterFields (fun step hstep => h step (List.mem_cons_of_mem _ hstep)) skips
    apply (obeys_stepFields (h step List.mem_cons_self) s).ifMatched
    intro m
    exact (hlater m.rest).ifMatched fun _ => Run.obeys_matched _

/-- A product keeps to a law if its steps do. -/
theorem obeys_product {p : Product Run (Parser Value)}
    (h : ∀ step ∈ p.steps, step.parser.Obeys law) : (product p).Obeys law := by
  intro s
  apply Run.Obeys.bind
  intro place _
  apply (obeys_fields h p.skipsBetween place).ifMatched
  intro m
  exact .bind fun _ _ => .bind fun _ _ => Run.obeys_matched _

end Steps

/-- An edge hands on a failure of its grammar, and a used-up call stack becomes a failure without
choices. -/
theorem obeys_edge {parser : Parser Value} (h : parser.Obeys law) : (edge parser).Obeys law := by
  intro s f hfailed
  cases hanswer : (parser s).answer with
  | ok outcome =>
    simp only [edge, hanswer] at hfailed ⊢
    cases outcome with
    | matched m => cases hfailed
    | failed g =>
      cases hfailed
      refine law.among (h s f hanswer) ?_
      exact (List.sublist_append_left _ _).cons _
  | error e =>
    simp only [edge, hanswer] at hfailed ⊢
    split at hfailed
    · cases hfailed
      exact law.of_isSimple (f := .tooDeep s) trivial _
    · cases hfailed

/-- A refused attempt keeps to every law. -/
theorem obeys_refused : (refused : Parser α).Obeys law := by
  rintro s f ⟨⟩
  exact law.of_isSimple (f := .tooDeep s) trivial _

/-! ### Leaves -/

/-- A text of several characters keeps to every law. -/
theorem obeys_phrase (text : String) : (phrase text).Obeys law := by
  intro s
  by_cases hwhole : text.toList <+: s.rest
  · have hread := phrase_of_prefix hwhole
    rw [hread]
    exact Run.obeys_matched _
  · obtain ⟨common, expected, later, htext, hcommon, hdifferent⟩ := exists_difference hwhole
    rw [phrase_of_difference htext hcommon hdifferent]
    exact Run.obeys_failed (Failure.isSimple_unexpected _ _)

/-- A literal keeps to every law. -/
theorem obeys_literal (text : String) : (literal text).Obeys law := by
  by_cases hsingle : ∃ c, text.toList = [c]
  · obtain ⟨c, hc⟩ := hsingle
    rw [literal_singleton hc]
    exact obeys_map (obeys_satisfy _ _) _
  · rw [literal_of_ne_singleton (not_exists.mp hsingle)]
    exact obeys_phrase text

/-- Digits or a missing number keep to every law. -/
theorem obeys_someDigits : someDigits.Obeys law := by
  intro s
  by_cases hnone : Text.leadingDigits s.rest = []
  · rw [someDigits_of_nil hnone]
    exact Run.obeys_failed (Failure.isSimple_noNumber s _)
  · rw [someDigits_of_ne_nil hnone]
    exact Run.obeys_matched _

/-- An unsigned integer keeps to every law. -/
theorem obeys_unsigned (width : Option Int) : (unsigned width).Obeys law := by
  intro s
  apply (obeys_someDigits s).ifMatched
  intro m
  split
  · exact Run.obeys_matched _
  · exact Run.obeys_failed trivial

/-- A signed integer keeps to every law. -/
theorem obeys_signed (width : Option Int) : (signed width).Obeys law := by
  intro s
  apply (obeys_optional sign 1 s).ifMatched
  intro sign
  apply (obeys_someDigits sign.rest).ifMatched
  intro m
  dsimp only
  split
  · exact Run.obeys_matched _
  · exact Run.obeys_failed trivial

/-- A skipped exponent keeps to every law. -/
theorem obeys_skipExponent (s : Cursor) : (skipExponent s).Obeys law := by
  apply Run.Obeys.bind
  intro outcome _
  cases outcome with
  | failed f => exact Run.obeys_matched _
  | matched marker =>
    apply (obeys_optional sign 1 marker.rest).ifMatched
    intro sign
    apply Run.Obeys.bind
    intro outcome _
    cases outcome with
    | failed f => exact Run.obeys_failed trivial
    | matched m => exact Run.obeys_matched _

/-- A floating point number keeps to every law. -/
theorem obeys_float : float.Obeys law := by
  intro s
  apply (obeys_optional sign 1 s).ifMatched
  intro sign
  apply (obeys_someDigits sign.rest).ifMatched
  intro whole
  apply Run.Obeys.bind
  intro fraction _
  apply (obeys_skipExponent fraction).ifMatched
  intro last
  exact .bind fun _ _ => Run.obeys_matched _

/-- The end of the text keeps to every law. -/
theorem obeys_finish : finish.Obeys law := by
  intro s
  cases hrest : s.rest with
  | nil =>
    rw [finish_of_nil hrest]
    exact Run.obeys_matched _
  | cons c cs =>
    rw [finish_of_cons hrest]
    exact Run.obeys_failed trivial

end Parser

/-- There is no choice in a leaf, so it keeps to every law. -/
theorem Leaf.obeys_parser (l : Leaf) : l.parser.Obeys law := by
  cases l with
  | blank | alphanumeric | anyChar => exact Parser.obeys_map (Parser.obeys_satisfy _ _) _
  | digit | sign => exact Parser.obeys_map (Parser.obeys_map (Parser.obeys_satisfy _ _) _) _
  | finish => exact Parser.obeys_map Parser.obeys_finish _
  | nothing => exact Parser.obeys_map (fun _ => Run.obeys_matched _) _
  | blanks => exact Parser.obeys_map (fun _ => .bind fun _ _ => Run.obeys_matched _) _
  | someBlanks =>
    refine Parser.obeys_map (fun s => ?_) _
    exact (Parser.obeys_satisfy _ _ s).ifMatched fun _ => .bind fun _ _ => Run.obeys_matched _
  | float => exact Parser.obeys_map Parser.obeys_float _
  | literal text => exact Parser.obeys_map (Parser.obeys_literal text) _
  | unsigned width => exact Parser.obeys_map (Parser.obeys_unsigned width) _
  | signed width => exact Parser.obeys_map (Parser.obeys_signed width) _

end TextGrammar
