import TextGrammar.Proofs.Grammar.Choice
import TextGrammar.Proofs.Leaf.Recognition

/-!
# Recognizing texts by grammars

Products, variants and sums of grammars recognize what their parts recognize one behind the
other. An edge recognizes what its grammar recognizes within a limit that is smaller by one.
-/

namespace TextGrammar

variable {defs : Definitions} {s : Cursor} {cs : List Char}

/-! ### Products -/

section Products

variable {edge : Option String → Target Description → Parser Value} {before : List Char → Prop}

/-- Without steps nothing is recognized. -/
theorem recognizes_no_steps :
    (Parser.laterFields false (stepParsers edge [])).Recognizes [] [] before :=
  Parser.recognizes_no_fields

/-- A step without a check and the steps behind it recognize their texts one behind the other. -/
theorem recognizes_steps {g : Grammar} {steps : List (Step (Except Fault) Grammar)} {value : Value}
    {others : List (String × Value)} {later : List Char} {before' : List Char → Prop}
    (field : Option String) (h : (g.parser edge).Recognizes cs value before)
    (hlater : (Parser.laterFields false (stepParsers edge steps)).Recognizes later others before')
    (hbefore : ∀ tail, before' tail → before (later ++ tail)) :
    (Parser.laterFields false (stepParsers edge (⟨field, g, none⟩ :: steps))).Recognizes
      (cs ++ later) (Parser.captured field value ++ others) before' :=
  Parser.recognizes_fields h rfl hlater hbefore

/-- Steps fail like the first of them. -/
theorem failsWith_steps {step : Step (Except Fault) Grammar} {f : Failure}
    (h : (step.parser.parser edge).FailsWith s f) (steps : List (Step (Except Fault) Grammar)) :
    (Parser.laterFields false (stepParsers edge (step :: steps))).FailsWith s f :=
  Parser.failsWith_laterFields h _

/-- Behind a step without a check that is read, the other steps may fail. -/
theorem failsWith_steps_cons {g : Grammar} {steps : List (Step (Except Fault) Grammar)}
    {value : Value} {t : Cursor} {f : Failure} (field : Option String)
    (h : (g.parser edge).Takes s value t)
    (hlater : (Parser.laterFields false (stepParsers edge steps)).FailsWith t f) :
    (Parser.laterFields false (stepParsers edge (⟨field, g, none⟩ :: steps))).FailsWith s f :=
  Parser.failsWith_laterFields_cons (Parser.takes_stepFields h rfl) hlater

/-- A product recognizes the texts of its steps and builds its value. -/
theorem recognizes_product {p : Product (Except Fault) Grammar} {fields : List (String × Value)}
    {value : Value} (hbetween : p.skipsBetween = false) (haround : p.skipsAround = false)
    (h : (Parser.laterFields false (stepParsers edge p.steps)).Recognizes cs fields before)
    (hbuild : p.build fields = .ok value) :
    (Parser.product (productParser edge p)).Recognizes cs value before := by
  obtain ⟨build, steps, _, _⟩ := p
  subst hbetween haround
  apply Parser.recognizes_product h
  rw [observedBuild, Run.consult_answer]
  exact hbuild

/-- A variant without options recognizes what its steps do, if its value can be built. -/
theorem recognizes_variant {v : Variant (Except Fault) Grammar} {fields : List (String × Value)}
    {value : Value} (hbetween : v.product.skipsBetween = false)
    (haround : v.product.skipsAround = false)
    (h : (Parser.laterFields false (stepParsers edge v.product.steps)).Recognizes cs fields before)
    (hbuild : v.product.build fields = .ok value) :
    (Parser.variant (variantParser edge v)).Recognizes cs value before := by
  obtain ⟨name, p⟩ := v
  exact (recognizes_product hbetween haround h hbuild).retagged (some name)

/-- A variant fails like its steps. -/
theorem failsWith_variant {v : Variant (Except Fault) Grammar} {f : Failure}
    (hbetween : v.product.skipsBetween = false) (haround : v.product.skipsAround = false)
    (h : (Parser.laterFields false (stepParsers edge v.product.steps)).FailsWith s f) :
    (Parser.variant (variantParser edge v)).FailsWith s f := by
  obtain ⟨name, build, steps, _, _⟩ := v
  subst hbetween haround
  exact (Parser.failsWith_product h).retagged (some name)

/-- So it fails where its first step does. -/
theorem fails_variant {v : Variant (Except Fault) Grammar} {step : Step (Except Fault) Grammar}
    {steps : List (Step (Except Fault) Grammar)} (hbetween : v.product.skipsBetween = false)
    (haround : v.product.skipsAround = false) (hsteps : v.product.steps = step :: steps)
    (h : (step.parser.parser edge).Fails s) :
    (Parser.variant (variantParser edge v)).Fails s := by
  obtain ⟨f, hfailed⟩ := h
  refine ⟨f, failsWith_variant hbetween haround ?_⟩
  rw [hsteps]
  exact failsWith_steps hfailed _

/-- A sum recognizes what one of its variants recognizes if those before it fail there. -/
theorem recognizes_sum (earlier later : List (Variant (Except Fault) Grammar))
    {v : Variant (Except Fault) Grammar} {value : Value}
    (hearlier : ∀ w ∈ earlier, ∀ s tail, s.rest = cs ++ tail →
      (Parser.variant (variantParser edge w)).Fails s)
    (h : (Parser.variant (variantParser edge v)).Recognizes cs value before) :
    ((Grammar.sum (earlier ++ v :: later)).parser edge).Recognizes cs value before := by
  rw [Grammar.parser, variantParsers_eq_map, Parser.sum, List.map_map, List.map_map,
    List.map_append, List.map_append, List.map_cons, List.map_cons]
  refine Parser.recognizes_choice _ (fun p hp => ?_) h
  obtain ⟨w, hw, rfl⟩ := List.mem_map.mp hp
  exact hearlier w hw

/-- A sum fails with the failures of all its variants. -/
theorem failsWith_sum {variants : List (Variant (Except Fault) Grammar)} {failures : List Failure}
    (h : Parser.FailAt s (variants.map fun v => Parser.variant (variantParser edge v)) failures) :
    ((Grammar.sum variants).parser edge).FailsWith s (.noneMatched s failures) := by
  rw [Parser.FailsWith, Grammar.parser, Parser.sum, variantParsers_eq_map]
  apply Parser.choice_of_failAt
  rwa [List.map_map]

end Products

/-! ### Edges -/

section Edges

variable {target : Target Description} {g : Grammar} {limit : Nat}

/-- What an edge leads to answers like the grammar that the edge is resolved to. -/
theorem followed_answer (hresolve : target.resolve defs = .ok g) (limit : Nat)
    (label : Option String) (s : Cursor) :
    (followed defs limit label target s).answer = (g.parserWithin defs limit s).answer := by
  have hconsult : (Run.consult .target (target.resolve defs)).answer = .ok g := by
    rw [Run.consult_answer, hresolve]
  cases label with
  | none => rw [followed, announced, Run.pure_bind, Run.bind_of_ok hconsult]
  | some label =>
    rw [followed, announced, Run.bind_of_ok (Run.emit_answer _), Run.bind_of_ok hconsult]

/-- One attempt at an edge more may be active outside the edge than inside. -/
theorem recognizes_edgeWithin {value : Value} {before : List Char → Prop}
    (hresolve : target.resolve defs = .ok g)
    (h : (g.parserWithin defs limit).Recognizes cs value before) (label : Option String) :
    (edgeWithin defs (limit + 1) label target).Recognizes cs (.box value) before := by
  intro s tail hrest htail
  apply Parser.Takes.edge
  obtain ⟨m, hanswer, hvalue, hm⟩ := h s tail hrest htail
  exact ⟨m, (followed_answer hresolve limit label s).trans hanswer, hvalue, hm⟩

/-- An edge fails like the grammar that it leads to. -/
theorem failsWith_edgeWithin {f : Failure} (hresolve : target.resolve defs = .ok g)
    (h : (g.parserWithin defs limit).FailsWith s f) (label : Option String) :
    (edgeWithin defs (limit + 1) label target).FailsWith s f :=
  Parser.FailsWith.edge ((followed_answer hresolve limit label s).trans h)

end Edges

end TextGrammar
