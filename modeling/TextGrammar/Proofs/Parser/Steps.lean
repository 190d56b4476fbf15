import TextGrammar.Grammar.Description
import TextGrammar.Proofs.Parser.Recognition

/-!
# The steps of a product

The course of a product without options: its steps are read one behind the other until one
of them does not pass, and the value is built from the fields of all steps. The options of a
product skip blanks where steps that skip blanks would do so, so a product with options has
the course of one without them that has these steps as well.
-/

namespace TextGrammar

/-- Some items, with a blank between every two of them and with blanks around them all if asked
to. -/
def withBlanks {σ : Type} (blank : σ) (between around : Bool) (items : List σ) : List σ :=
  let spaced := if between then items.intersperse blank else items
  if around then blank :: (spaced ++ [blank]) else spaced

/-- The product without options that has steps for the blanks that are skipped. -/
def Product.spelledOut {m : Type → Type} {π : Type} (blank : Step m π) (p : Product m π) :
    Product m π :=
  ⟨p.build, withBlanks blank p.skipsBetween p.skipsAround p.steps, false, false⟩

/-- The fields that steps capture of their values: the value of each step that has a name. -/
def fieldsOf {m : Type → Type} {π : Type} (steps : List (Step m π)) (values : List Value) :
    List (String × Value) :=
  (steps.zip values).filterMap fun (step, value) => step.field.map fun name => (name, value)

/-- Between items stands a blank before each of them but the first one. -/
theorem intersperse_cons {σ : Type} (blank item : σ) (items : List σ) :
    (item :: items).intersperse blank = item :: items.flatMap fun next => [blank, next] := by
  induction items generalizing item with
  | nil => rfl
  | cons next items ih =>
    rw [List.intersperse_cons_cons, ih next, List.flatMap_cons, List.cons_append,
      List.singleton_append]

namespace Parser

variable {α : Type} {step : Step Run (Parser Value)} {steps : List (Step Run (Parser Value))}
  {s t : Cursor}

/-! ### Blanks between steps -/

/-- A step that skips blanks and captures nothing. -/
def blankStep : Step Run (Parser Value) := ⟨none, Leaf.blanks.parser, none⟩

/-- A step for blanks skips them and captures nothing. -/
theorem stepFields_blankStep (s : Cursor) :
    stepFields blankStep s = .matched (s.matchTo [] s.afterBlanks) := by
  have hblanks : blankStep.parser s =
      .matched (s.matchTo (.text (String.ofList (s.rest.takeWhile Text.isBlank))) s.afterBlanks) :=
    map_of_matched _ (blanks_eq s)
  rw [stepFields, hblanks, Run.matched_ifMatched]
  rfl

/-- Without steps nothing is captured. -/
theorem laterFields_nil (skips : Bool) (s : Cursor) :
    laterFields skips [] s = .matched (s.matchTo [] s) := rfl

/-- What steps capture is a match that begins where they began. -/
theorem laterFields_ifMatched_matchTo (steps : List (Step Run (Parser Value))) (s : Cursor) :
    ((laterFields false steps s).ifMatched fun m => .matched (s.matchTo m.value m.rest)) =
      laterFields false steps s := by
  cases steps with
  | nil => rfl
  | cons step steps =>
    simp only [laterFields_cons, Run.ifMatched_assoc, Run.matched_ifMatched, Cursor.matchTo_value,
      Cursor.matchTo_rest]

/-- Steps in two groups are read one group behind the other. -/
theorem laterFields_append (steps later : List (Step Run (Parser Value))) (s : Cursor) :
    laterFields false (steps ++ later) s = (laterFields false steps s).ifMatched fun first =>
      (laterFields false later first.rest).ifMatched fun others =>
        .matched (s.matchTo (first.value ++ others.value) others.rest) := by
  induction steps generalizing s with
  | nil => exact (laterFields_ifMatched_matchTo later s).symm
  | cons step steps ih =>
    simp only [List.cons_append, laterFields_cons, ih, Run.ifMatched_assoc, Run.matched_ifMatched,
      Cursor.matchTo_value, Cursor.matchTo_rest, List.append_assoc]

/-- Behind a step that skips blanks the others are read. -/
theorem laterFields_blankStep (steps : List (Step Run (Parser Value))) (s : Cursor) :
    laterFields false (blankStep :: steps) s =
      (laterFields false steps s.afterBlanks).ifMatched fun others =>
        .matched (s.matchTo others.value others.rest) := by
  rw [laterFields_cons, stepFields_blankStep, Run.matched_ifMatched]
  rfl

/-- Blanks that are to be skipped are skipped. -/
theorem skipBlanksIf_true (s : Cursor) : skipBlanksIf true s = .pure s.afterBlanks := by
  rw [skipBlanksIf, if_pos rfl, skipBlanks_eq]

/-- Blanks that are skipped before each step are skipped by steps of their own. -/
theorem laterFields_true (steps : List (Step Run (Parser Value))) (s : Cursor) :
    laterFields true steps s =
      laterFields false (steps.flatMap fun step => [blankStep, step]) s := by
  induction steps generalizing s with
  | nil => rfl
  | cons step steps ih =>
    have hlater : laterFields true steps =
        laterFields false (steps.flatMap fun step => [blankStep, step]) := funext ih
    rw [laterFields, skipBlanksIf_true, Run.pure_bind, hlater, List.flatMap_cons, List.cons_append,
      List.singleton_append, laterFields_blankStep, laterFields_cons]
    simp only [Run.ifMatched_assoc, Run.matched_ifMatched, Cursor.matchTo_value,
      Cursor.matchTo_rest]

/-- Blanks that are skipped between steps are skipped by steps of their own. -/
theorem fields_eq_intersperse (skips : Bool) (steps : List (Step Run (Parser Value))) :
    fields skips steps =
      laterFields false (if skips then steps.intersperse blankStep else steps) := by
  cases skips with
  | false => exact fields_eq_laterFields steps
  | true =>
    funext s
    cases steps with
    | nil => rfl
    | cons step steps =>
      have hlater : laterFields true steps =
          laterFields false (steps.flatMap fun step => [blankStep, step]) :=
        funext (laterFields_true steps)
      rw [if_pos rfl, intersperse_cons, laterFields_cons, fields, hlater]

/-- A product with options is read like the product without options that has steps for the blanks:
the same happens, in the same order, and the same comes of it. -/
theorem product_spelledOut (p : Product Run (Parser Value)) :
    product (p.spelledOut blankStep) = product p := by
  funext s
  obtain ⟨build, steps, skipsBetween, skipsAround⟩ := p
  rw [Product.spelledOut, product_eq, product, withBlanks, fields_eq_intersperse]
  cases skipsAround with
  | false => simp only [skipBlanksIf, Bool.false_eq_true, if_false, Run.pure_bind]
  | true =>
    simp only [skipBlanksIf_true, Run.pure_bind, if_true, laterFields_blankStep,
      laterFields_append, laterFields_nil, Run.ifMatched_assoc, Run.matched_ifMatched,
      Cursor.matchTo_value, Cursor.matchTo_rest, List.append_nil]

/-- So is a variant. -/
theorem variant_spelledOut (name : String) (p : Product Run (Parser Value)) :
    variant ⟨name, p.spelledOut blankStep⟩ = variant ⟨name, p⟩ := by
  rw [variant, product_spelledOut, variant]

/-! ### Steps that pass and steps that do not -/

/-- Steps that pass, each one read where the one before it ended and with a value that its check
accepts; with their values, what happens meanwhile and the cursor behind the last one. -/
inductive Passes : List (Step Run (Parser Value)) → Cursor → List Value → List Event → Cursor → Prop
  | nil {s : Cursor} : Passes [] s [] [] s
  | cons {step : Step Run (Parser Value)} {steps : List (Step Run (Parser Value))} {s t : Cursor}
      {m : Match Value} {values : List Value} {events : List Event}
      (hmatched : (step.parser s).answer = .ok (.matched m))
      (haccepted : (accepts step m.value).answer = .ok true)
      (hlater : Passes steps m.rest values events t) :
      Passes (step :: steps) s (m.value :: values)
        ((step.parser s).events ++ (accepts step m.value).events ++ events) t

/-- A step that does not pass at a cursor; with what happens meanwhile, and with the failure or the
fault that comes of it. A value that is rejected is shown in the failure, so if it has no text, a
fault comes of it. -/
inductive Stops (step : Step Run (Parser Value)) (s : Cursor) :
    List Event → Except Fault Failure → Prop
  | failed {f : Failure} (h : (step.parser s).answer = .ok (.failed f)) :
      Stops step s (step.parser s).events (.ok f)
  | rejected {m : Match Value} (hmatched : (step.parser s).answer = .ok (.matched m))
      (hrejected : (accepts step m.value).answer = .ok false)
      (hwritable : m.value.isWritable = true) :
      Stops step s
        ((step.parser s).events ++ (accepts step m.value).events ++ [.called (.show m.value)])
        (.ok (.rejected s step.field m.value hwritable))
  | unwritable {m : Match Value} (hmatched : (step.parser s).answer = .ok (.matched m))
      (hrejected : (accepts step m.value).answer = .ok false)
      (hwritable : m.value.isWritable = false) :
      Stops step s
        ((step.parser s).events ++ (accepts step m.value).events ++
          [.called (.show m.value), .raised .tooManyDigits])
        (.error .tooManyDigits)
  | raised {e : Fault} (h : (step.parser s).answer = .error e) :
      Stops step s (step.parser s).events (.error e)
  | raisedByCheck {m : Match Value} {e : Fault}
      (hmatched : (step.parser s).answer = .ok (.matched m))
      (hraised : (accepts step m.value).answer = .error e) :
      Stops step s ((step.parser s).events ++ (accepts step m.value).events) (.error e)

/-- The course of steps: if all of them pass it is finished with their values, and otherwise it is
over with the first one that does not pass. -/
inductive Course (steps : List (Step Run (Parser Value))) (s : Cursor)
    (finish : List Value → Cursor → Run (Outcome α)) : Run (Outcome α) → Prop
  | finished {values : List Value} {events : List Event} {t : Cursor}
      (hpasses : Passes steps s values events t) :
      Course steps s finish ⟨events ++ (finish values t).events, (finish values t).answer⟩
  | stopped {before after : List (Step Run (Parser Value))} {step : Step Run (Parser Value)}
      {values : List Value} {events last : List Event} {t : Cursor} {ending : Except Fault Failure}
      (hsteps : steps = before ++ step :: after) (hpasses : Passes before s values events t)
      (hstops : Stops step t last ending) :
      Course steps s finish ⟨events ++ last, ending.map .failed⟩

/-- There are as many values as steps. -/
theorem Passes.length_eq {values : List Value} {events : List Event}
    (h : Passes steps s values events t) : values.length = steps.length := by
  induction h with
  | nil => rfl
  | cons _ _ _ ih => rw [List.length_cons, List.length_cons, ih]

/-- A step passes or it does not. -/
theorem passes_or_stops (step : Step Run (Parser Value)) (s : Cursor) :
    (∃ m, (step.parser s).answer = .ok (.matched m) ∧ (accepts step m.value).answer = .ok true) ∨
      ∃ events ending, Stops step s events ending := by
  cases hanswer : (step.parser s).answer with
  | error e => exact .inr ⟨_, _, .raised hanswer⟩
  | ok outcome =>
    cases outcome with
    | failed f => exact .inr ⟨_, _, .failed hanswer⟩
    | matched m =>
      cases hcheck : (accepts step m.value).answer with
      | error e => exact .inr ⟨_, _, .raisedByCheck hanswer hcheck⟩
      | ok accepted =>
        cases accepted with
        | false =>
          cases hwritable : m.value.isWritable with
          | true => exact .inr ⟨_, _, .rejected hanswer hcheck hwritable⟩
          | false => exact .inr ⟨_, _, .unwritable hanswer hcheck hwritable⟩
        | true => exact .inl ⟨m, rfl, hcheck⟩

/-- A step that passes captures its value. -/
theorem stepFields_of_passes {m : Match Value}
    (hmatched : (step.parser s).answer = .ok (.matched m))
    (haccepted : (accepts step m.value).answer = .ok true) :
    stepFields step s = ⟨(step.parser s).events ++ (accepts step m.value).events,
      .ok (.matched (s.matchTo (captured step.field m.value) m.rest))⟩ := by
  rw [stepFields, Run.ifMatched_of_matched hmatched, Run.bind_of_ok haccepted, if_pos rfl]
  simp [Run.matched]

/-- A step that does not pass ends as it does. -/
theorem stepFields_of_stops {events : List Event} {ending : Except Fault Failure}
    (h : Stops step s events ending) : stepFields step s = ⟨events, ending.map .failed⟩ := by
  cases h with
  | failed h =>
    rw [stepFields, Run.ifMatched_of_failed h]
    rfl
  | rejected hmatched hrejected hwritable =>
    rw [stepFields, Run.ifMatched_of_matched hmatched, Run.bind_of_ok hrejected,
      if_neg Bool.false_ne_true, reject_of_writable hwritable, ← List.append_assoc]
    rfl
  | unwritable hmatched hrejected hwritable =>
    rw [stepFields, Run.ifMatched_of_matched hmatched, Run.bind_of_ok hrejected,
      if_neg Bool.false_ne_true, reject_of_not_writable hwritable, ← List.append_assoc]
    rfl
  | raised h =>
    rw [stepFields, Run.ifMatched_of_error h]
    rfl
  | raisedByCheck hmatched hraised =>
    rw [stepFields, Run.ifMatched_of_matched hmatched, Run.bind_of_error hraised]
    rfl

/-- A step that passes comes before the course of the other steps. -/
theorem Course.cons {finish finish' : List Value → Cursor → Run (Outcome α)} {m : Match Value}
    {run : Run (Outcome α)} (hmatched : (step.parser s).answer = .ok (.matched m))
    (haccepted : (accepts step m.value).answer = .ok true) (h : Course steps m.rest finish' run)
    (hfinish : ∀ values t, finish (m.value :: values) t = finish' values t) :
    Course (step :: steps) s finish
      ⟨(step.parser s).events ++ (accepts step m.value).events ++ run.events, run.answer⟩ := by
  cases h with
  | finished hpasses =>
    have hcourse : Course (step :: steps) s finish _ :=
      .finished (.cons hmatched haccepted hpasses)
    rwa [hfinish, List.append_assoc] at hcourse
  | stopped hsteps hpasses hstops =>
    have hcourse : Course (step :: steps) s finish _ :=
      .stopped (congrArg (step :: ·) hsteps) (.cons hmatched haccepted hpasses) hstops
    rwa [List.append_assoc] at hcourse

/-- The fields of several steps are those of the first one and then those of the others. -/
theorem fieldsOf_cons (step : Step Run (Parser Value)) (steps : List (Step Run (Parser Value)))
    (value : Value) (values : List Value) :
    fieldsOf (step :: steps) (value :: values) =
      captured step.field value ++ fieldsOf steps values := by
  cases hfield : step.field with
  | none => simp [fieldsOf, captured, hfield]
  | some name => simp [fieldsOf, captured, hfield]

/-- Without blanks to skip, steps take their course. What they capture is finished if all of them
pass. -/
theorem laterFields_course (steps : List (Step Run (Parser Value))) (s : Cursor)
    (next : List (String × Value) → Cursor → Run (Outcome α)) :
    Course steps s (fun values t => next (fieldsOf steps values) t)
      ((laterFields false steps s).ifMatched fun m => next m.value m.rest) := by
  induction steps generalizing s next with
  | nil => exact .finished .nil
  | cons step steps ih =>
    simp only [laterFields_cons, Run.ifMatched_assoc, Run.matched_ifMatched, Cursor.matchTo_value,
      Cursor.matchTo_rest]
    rcases passes_or_stops step s with ⟨m, hmatched, haccepted⟩ | ⟨events, ending, hstops⟩
    · -- what is finished behind the step has the field of the step in front
      have hlater := ih m.rest fun fields t => next (captured step.field m.value ++ fields) t
      rw [stepFields_of_passes hmatched haccepted, Run.ifMatched_of_matched rfl]
      refine hlater.cons hmatched haccepted fun values t => ?_
      rw [fieldsOf_cons]
    · rw [stepFields_of_stops hstops]
      have hcourse : Course (step :: steps) s
          (fun values t => next (fieldsOf (step :: steps) values) t) _ :=
        .stopped (List.nil_append _).symm .nil hstops
      cases ending with
      | error e => exact hcourse
      | ok f =>
        rw [Run.ifMatched_of_failed rfl]
        exact hcourse

/-- A product without options builds its value of what its steps capture. -/
theorem retagged_product_eq (tag : Option String) (build : List (String × Value) → Run Value)
    (steps : List (Step Run (Parser Value))) (s : Cursor) :
    retagged tag (product ⟨build, steps, false, false⟩) s =
      (laterFields false steps s).ifMatched fun m =>
        (build m.value).bind fun value => .matched ⟨value, m.rest, s.pos, tag⟩ := by
  rw [retagged, product_eq, Run.ifMatched_assoc]
  simp only [Run.bind_matched_ifMatched]
  rfl

/-! ### Steps without checks -/

/-- Steps without checks are read like a sequence, and capture some of its values. -/
theorem laterFields_eq_sequence (hchecks : ∀ step ∈ steps, step.check = none) (s : Cursor) :
    laterFields false steps s = (sequence (steps.map (·.parser)) s).ifMatched fun m =>
      .matched (s.matchTo (fieldsOf steps m.value) m.rest) := by
  induction steps generalizing s with
  | nil => rfl
  | cons step steps ih =>
    rw [List.forall_mem_cons] at hchecks
    have hlater := ih hchecks.2
    simp only [laterFields_cons, stepFields, accepts, hchecks.1, hlater, List.map_cons, sequence,
      Run.ifMatched_assoc, Run.matched_ifMatched, Run.pure_bind, if_true, Cursor.matchTo_value,
      Cursor.matchTo_rest, fieldsOf_cons]

/-- A sequence has a value of each part. -/
theorem length_of_sequence {parsers : List (Parser α)} {m : Match (List α)}
    (h : (sequence parsers s).answer = .ok (.matched m)) : m.value.length = parsers.length := by
  induction parsers generalizing s m with
  | nil =>
    cases h
    rfl
  | cons parser parsers ih =>
    rw [sequence] at h
    obtain ⟨first, -, hlater⟩ := Run.exists_of_ifMatched h
    obtain ⟨others, hothers, hm⟩ := Run.exists_of_ifMatched hlater
    cases hm
    exact congrArg (· + 1) (ih hothers)

end Parser

end TextGrammar
