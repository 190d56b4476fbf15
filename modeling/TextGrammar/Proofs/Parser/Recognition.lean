import TextGrammar.Parser.Combinators
import TextGrammar.Parser.Outermost
import TextGrammar.Parser.Product
import TextGrammar.Proofs.Leaf.Reading

/-!
# Recognizing texts

A parser recognizes a text as a value in front of the texts of a kind if it matches exactly
the first text wherever one of the others follows it. The kind is what a greedy parser
needs: digits must not be followed by digits, and blanks not by blanks. Texts that are
recognized one behind the other are recognized as a whole when each one is followed by what
the parser in front of it needs.
-/

namespace TextGrammar

variable {α β : Type}

namespace Parser

/-- A parser matches at a cursor, with a value and up to another cursor. -/
def Takes (parser : Parser α) (s : Cursor) (value : α) (t : Cursor) : Prop :=
  ∃ m, (parser s).answer = .ok (.matched m) ∧ m.value = value ∧ m.rest = t

/-- A parser fails at a cursor with a failure. -/
def FailsWith (parser : Parser α) (s : Cursor) (f : Failure) : Prop :=
  (parser s).answer = .ok (.failed f)

/-- A parser fails at a cursor. -/
def Fails (parser : Parser α) (s : Cursor) : Prop := ∃ f, (parser s).answer = .ok (.failed f)

/-- Wherever a text of some kind follows the given characters, a parser matches just these
characters. -/
def Recognizes (parser : Parser α) (cs : List Char) (value : α) (before : List Char → Prop) :
    Prop :=
  ∀ s tail, s.rest = cs ++ tail → before tail → parser.Takes s value (s.skip cs.length)

variable {parser : Parser α} {s t u : Cursor} {value : α} {cs : List Char}
  {before : List Char → Prop} {f : Failure}

/-! ### Readings -/

/-- A parser takes what its reading reads. -/
theorem Reads.takes {reading : Reading α} (h : parser.Reads reading) {length : Nat}
    (hreading : reading s.rest = some (value, length)) : parser.Takes s value (s.skip length) := by
  refine ⟨s.matchTo value (s.skip length), ?_, rfl, rfl⟩
  rw [h.matched hreading]
  rfl

/-- A parser fails where its reading reads nothing. -/
theorem Reads.fails {reading : Reading α} (h : parser.Reads reading)
    (hreading : reading s.rest = none) : parser.Fails s := by
  obtain ⟨f, -, hfailed⟩ := h.failed hreading
  refine ⟨f, ?_⟩
  rw [hfailed]
  rfl

/-- A parser recognizes what its reading reads. -/
theorem Reads.recognizes {reading : Reading α} (h : parser.Reads reading)
    (hreading : ∀ tail, before tail → reading (cs ++ tail) = some (value, cs.length)) :
    parser.Recognizes cs value before := by
  intro s tail hrest htail
  apply h.takes
  rw [hrest]
  exact hreading tail htail

/-- A match up to the end of the text is never reported as an incomplete one. -/
theorem Takes.orReport (h : parser.Takes s value t) (hend : t.rest = []) (complete : Bool) :
    (parser.orReport complete s).answer = .ok (.ok value) := by
  obtain ⟨m, hanswer, rfl, rfl⟩ := h
  have hatEnd : m.rest.isAtEnd = true :=
    Cursor.isAtEnd_iff.mpr (Cursor.rest_eq_nil_iff.mp hend)
  rw [Parser.orReport, Run.bind_of_ok hanswer]
  simp [hatEnd]

/-! ### Steps -/

/-- A step without a check takes what its parser takes. -/
theorem takes_stepFields {step : Step Run (Parser Value)} {value : Value}
    (h : step.parser.Takes s value t) (hcheck : step.check = none) :
    (stepFields step).Takes s (captured step.field value) t := by
  obtain ⟨m, hanswer, rfl, rfl⟩ := h
  refine ⟨s.matchTo (captured step.field m.value) m.rest, ?_, rfl, rfl⟩
  rw [stepFields, Run.ifMatched_of_matched hanswer, accepts, hcheck]
  rfl

/-- A step fails as its parser does. -/
theorem failsWith_stepFields {step : Step Run (Parser Value)} (h : step.parser.FailsWith s f) :
    (stepFields step).FailsWith s f := by
  rw [FailsWith, stepFields, Run.ifMatched_of_failed h]

/-- Without blanks to skip, a step is read where the one before it ended. -/
theorem laterFields_cons (step : Step Run (Parser Value)) (steps : List (Step Run (Parser Value)))
    (s : Cursor) :
    laterFields false (step :: steps) s = (stepFields step s).ifMatched fun first =>
      (laterFields false steps first.rest).ifMatched fun others =>
        .matched (s.matchTo (first.value ++ others.value) others.rest) := by
  rw [laterFields, skipBlanksIf, if_neg Bool.false_ne_true, Run.pure_bind]

/-- Without blanks to skip, the first step is one like the others. -/
theorem fields_eq_laterFields (steps : List (Step Run (Parser Value))) :
    fields false steps = laterFields false steps := by
  funext s
  cases steps with
  | nil => rfl
  | cons step steps => rw [laterFields_cons, fields]

/-- Steps take what they take one behind the other. -/
theorem takes_laterFields {step : Step Run (Parser Value)} {steps : List (Step Run (Parser Value))}
    {first others : List (String × Value)} (hfirst : (stepFields step).Takes s first t)
    (hlater : (laterFields false steps).Takes t others u) :
    (laterFields false (step :: steps)).Takes s (first ++ others) u := by
  obtain ⟨m, hanswer, rfl, rfl⟩ := hfirst
  obtain ⟨ms, hanswers, rfl, rfl⟩ := hlater
  refine ⟨s.matchTo (m.value ++ ms.value) ms.rest, ?_, rfl, rfl⟩
  rw [laterFields_cons, Run.ifMatched_of_matched hanswer, Run.ifMatched_of_matched hanswers]
  rfl

/-- Steps fail like the first of them. -/
theorem failsWith_laterFields {step : Step Run (Parser Value)} (h : step.parser.FailsWith s f)
    (steps : List (Step Run (Parser Value))) :
    (laterFields false (step :: steps)).FailsWith s f := by
  rw [FailsWith, laterFields_cons, Run.ifMatched_of_failed (failsWith_stepFields h)]

/-- Behind a step that is read, the other steps may fail. -/
theorem failsWith_laterFields_cons {step : Step Run (Parser Value)}
    {steps : List (Step Run (Parser Value))} {first : List (String × Value)}
    (hfirst : (stepFields step).Takes s first t)
    (hlater : (laterFields false steps).FailsWith t f) :
    (laterFields false (step :: steps)).FailsWith s f := by
  obtain ⟨m, hanswer, -, rfl⟩ := hfirst
  rw [FailsWith, laterFields_cons, Run.ifMatched_of_matched hanswer, Run.ifMatched_of_failed hlater]

/-- Without steps nothing is recognized. -/
theorem recognizes_no_fields : (laterFields false []).Recognizes [] [] before := by
  intro s _ _ _
  refine ⟨s.matchTo [] s, rfl, rfl, ?_⟩
  exact s.skip_zero.symm

/-- A step and the steps behind it recognize the text of the step and the texts of the others. -/
theorem recognizes_fields {step : Step Run (Parser Value)} {steps : List (Step Run (Parser Value))}
    {value : Value} {others : List (String × Value)} {later : List Char}
    {before' : List Char → Prop} (h : step.parser.Recognizes cs value before)
    (hcheck : step.check = none)
    (hlater : (laterFields false steps).Recognizes later others before')
    (hbefore : ∀ tail, before' tail → before (later ++ tail)) :
    (laterFields false (step :: steps)).Recognizes (cs ++ later)
      (captured step.field value ++ others) before' := by
  intro s tail hrest htail
  rw [List.append_assoc] at hrest
  have hfirst := h s (later ++ tail) hrest (hbefore tail htail)
  have hothers := hlater (s.skip cs.length) tail (Cursor.rest_skip_length hrest) htail
  have hall := takes_laterFields (takes_stepFields hfirst hcheck) hothers
  rwa [Cursor.skip_skip, ← List.length_append] at hall

/-! ### Products and sums -/

/-- Without blanks to skip, a product reads its steps and builds its value. -/
theorem product_eq (build : List (String × Value) → Run Value)
    (steps : List (Step Run (Parser Value))) (s : Cursor) :
    product ⟨build, steps, false, false⟩ s = (laterFields false steps s).ifMatched fun m =>
      (build m.value).bind fun value => .matched (s.matchTo value m.rest) := by
  simp only [product, skipBlanksIf, Bool.false_eq_true, if_false, Run.pure_bind,
    fields_eq_laterFields]

/-- A product recognizes what its steps do, if its value can be built. -/
theorem recognizes_product {build : List (String × Value) → Run Value}
    {steps : List (Step Run (Parser Value))} {fields : List (String × Value)} {value : Value}
    (h : (laterFields false steps).Recognizes cs fields before)
    (hbuild : (build fields).answer = .ok value) :
    (product ⟨build, steps, false, false⟩).Recognizes cs value before := by
  intro s tail hrest htail
  obtain ⟨m, hanswer, rfl, hm⟩ := h s tail hrest htail
  refine ⟨s.matchTo value m.rest, ?_, rfl, hm⟩
  rw [product_eq, Run.ifMatched_of_matched hanswer, Run.bind_of_ok hbuild]
  rfl

/-- A product fails as its steps do. -/
theorem failsWith_product {build : List (String × Value) → Run Value}
    {steps : List (Step Run (Parser Value))} (h : (laterFields false steps).FailsWith s f) :
    (product ⟨build, steps, false, false⟩).FailsWith s f := by
  rw [FailsWith, product_eq, Run.ifMatched_of_failed h]

/-- A product fails where its first step does. -/
theorem fails_product {build : List (String × Value) → Run Value} {step : Step Run (Parser Value)}
    (h : step.parser.Fails s) (steps : List (Step Run (Parser Value))) :
    (product ⟨build, step :: steps, false, false⟩).Fails s :=
  h.imp fun _ hfailed => failsWith_product (failsWith_laterFields hfailed steps)

/-- A tag does not change what is recognized. -/
theorem Recognizes.retagged (h : parser.Recognizes cs value before) (tag : Option String) :
    (retagged tag parser).Recognizes cs value before := by
  intro s tail hrest htail
  obtain ⟨m, hanswer, hvalue, hm⟩ := h s tail hrest htail
  refine ⟨m.withTag tag, ?_, hvalue, hm⟩
  rw [Parser.retagged, Run.ifMatched_of_matched hanswer]
  rfl

/-- A tag does not change what fails. -/
theorem FailsWith.retagged (h : parser.FailsWith s f) (tag : Option String) :
    (retagged tag parser).FailsWith s f := by
  rw [FailsWith, Parser.retagged, Run.ifMatched_of_failed h]

/-- A choice takes what one of its parsers takes if those before it fail. -/
theorem takes_choice (exhausted : Nat → Nat → Event) {earlier later : List (Parser α)}
    (hearlier : ∀ p ∈ earlier, p.Fails s) (h : parser.Takes s value t) :
    (choice exhausted (earlier ++ parser :: later)).Takes s value t := by
  obtain ⟨m, hanswer, hvalue, hrest⟩ := h
  have hfirst : (firstMatch (earlier ++ parser :: later) s).answer = .ok (.ok m) := by
    induction earlier with
    | nil =>
      rw [List.nil_append, firstMatch, Run.bind_of_ok hanswer]
      rfl
    | cons p earlier ih =>
      obtain ⟨f, hfailed⟩ := hearlier p List.mem_cons_self
      have hlater := ih fun q hq => hearlier q (List.mem_cons_of_mem _ hq)
      rw [List.cons_append, firstMatch, Run.bind_of_ok hfailed]
      simp only [Run.bind_of_ok hlater]
      rfl
  refine ⟨m, ?_, hvalue, hrest⟩
  rw [choice, Run.bind_of_ok hfirst]
  rfl

/-- A choice recognizes what one of its parsers recognizes if those before it fail there. -/
theorem recognizes_choice (exhausted : Nat → Nat → Event) {earlier later : List (Parser α)}
    (hearlier : ∀ p ∈ earlier, ∀ s tail, s.rest = cs ++ tail → p.Fails s)
    (h : parser.Recognizes cs value before) :
    (choice exhausted (earlier ++ parser :: later)).Recognizes cs value before := by
  intro s tail hrest htail
  exact takes_choice exhausted (fun p hp => hearlier p hp s tail hrest) (h s tail hrest htail)

/-! ### Edges -/

/-- An edge puts a value into a box. -/
theorem Takes.edge {parser : Parser Value} {value : Value} (h : parser.Takes s value t) :
    (edge parser).Takes s (.box value) t := by
  obtain ⟨m, hanswer, rfl, rfl⟩ := h
  refine ⟨m.withValue (.box m.value), ?_, rfl, rfl⟩
  rw [Parser.edge, hanswer]
  rfl

/-- It fails like its parser. -/
theorem FailsWith.edge {parser : Parser Value} (h : parser.FailsWith s f) :
    (edge parser).FailsWith s f := by
  rw [FailsWith] at h
  rw [FailsWith, Parser.edge, h]
  rfl

end Parser

end TextGrammar
