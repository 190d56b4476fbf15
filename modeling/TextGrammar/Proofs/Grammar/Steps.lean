import Mathlib
import TextGrammar.Callback
import TextGrammar.Proofs.Grammar.Contract
import TextGrammar.Proofs.Grammar.Exits
import TextGrammar.Proofs.Leaf.Integers
import TextGrammar.Proofs.Parser.Steps

/-!
# Products step by step

What the options of a product and its steps mean. A product with options is built just when
the product without options that has steps for the blanks is built, and then the two are read
alike. A product without options reads its steps one behind the other. No two of its steps
capture under one name, so none of the fields is lost in a table, and if no step has a check,
the steps are read like a sequence.
-/

namespace TextGrammar

variable {defs : Definitions}

/-! ### Blanks among items -/

section Blanks

variable {σ τ ε : Type} {blank : σ} {blank' : τ}

/-- Changing items with blanks between them changes the items and the blanks. -/
theorem map_intersperse (f : σ → τ) (items : List σ) :
    (items.intersperse blank).map f = (items.map f).intersperse (f blank) := by
  cases items with
  | nil => rfl
  | cons item items =>
    rw [intersperse_cons, List.map_cons, List.map_cons, intersperse_cons, List.map_flatMap,
      List.flatMap_map]
    rfl

/-- Changing items with blanks among them changes the items and the blanks. -/
theorem map_withBlanks (f : σ → τ) (between around : Bool) (items : List σ) :
    (withBlanks blank between around items).map f =
      withBlanks (f blank) between around (items.map f) := by
  cases between <;> cases around <;> simp [withBlanks, map_intersperse]

/-- Blanks between items that give nothing do not matter. -/
theorem filterMap_intersperse {f : σ → Option τ} (h : f blank = none) (items : List σ) :
    (items.intersperse blank).filterMap f = items.filterMap f := by
  cases items with
  | nil => rfl
  | cons item items =>
    have hlater : (items.flatMap fun next => [blank, next]).filterMap f = items.filterMap f := by
      induction items with
      | nil => rfl
      | cons next items ih =>
        rw [List.flatMap_cons, List.cons_append, List.singleton_append,
          List.filterMap_cons_none h, List.filterMap_cons, ih, List.filterMap_cons]
    rw [intersperse_cons, List.filterMap_cons, hlater, List.filterMap_cons]

/-- Blanks that give nothing do not matter. -/
theorem filterMap_withBlanks {f : σ → Option τ} (h : f blank = none) (between around : Bool)
    (items : List σ) : (withBlanks blank between around items).filterMap f = items.filterMap f := by
  cases between <;> cases around <;> simp [withBlanks, filterMap_intersperse, h]

/-- Items with blanks between them become what the items become, with what the blank becomes. -/
theorem mapM_intersperse {f : σ → Except ε τ} (h : f blank = .ok blank') (items : List σ) :
    (items.intersperse blank).mapM f = (items.mapM f).map (·.intersperse blank') := by
  have hlater (items : List σ) : (items.flatMap fun next => [blank, next]).mapM f =
      (items.mapM f).map (·.flatMap fun next => [blank', next]) := by
    induction items with
    | nil => rfl
    | cons next items ih =>
      rw [List.flatMap_cons, List.cons_append, List.singleton_append, List.mapM_cons,
        List.mapM_cons, List.mapM_cons, h, ih]
      cases f next with
      | error e => rfl
      | ok value => cases items.mapM f <;> rfl
  cases items with
  | nil => rfl
  | cons item items =>
    rw [intersperse_cons, List.mapM_cons, List.mapM_cons, hlater]
    cases f item with
    | error e => rfl
    | ok value =>
      cases items.mapM f with
      | error e => rfl
      | ok values => exact congrArg Except.ok (intersperse_cons blank' value values).symm

/-- Items with blanks among them become what the items become, with what the blank becomes. -/
theorem mapM_withBlanks {f : σ → Except ε τ} (h : f blank = .ok blank') (between around : Bool)
    (items : List σ) :
    (withBlanks blank between around items).mapM f =
      (items.mapM f).map (withBlanks blank' between around) := by
  have hspaced : (if between then items.intersperse blank else items).mapM f =
      (items.mapM f).map fun values => if between then values.intersperse blank' else values := by
    cases between with
    | false => exact (id_map (items.mapM f)).symm
    | true => exact mapM_intersperse h items
  cases around with
  | false => exact hspaced
  | true =>
    simp only [withBlanks, if_true, List.mapM_cons, List.mapM_append, h, hspaced]
    cases items.mapM f <;> rfl

/-- Where there are items, there are items with blanks among them. -/
theorem withBlanks_cons_ne_nil (between around : Bool) (item : σ) (items : List σ) :
    withBlanks blank between around (item :: items) ≠ [] := by
  cases between <;> cases around <;> simp [withBlanks, intersperse_cons]

end Blanks

/-! ### Building steps -/

/-- The name under which a step captures. -/
def StepDescription.field {π : Type} : StepDescription π → Option String
  | .capture name _ _ => some name
  | .discard _ _ | .bare _ => none

/-- The check of a step. -/
def StepDescription.check {π : Type} : StepDescription π → Option (Value → Except Fault Bool)
  | .capture _ _ check | .discard _ check => check
  | .bare _ => none

/-- The part that a step reads. -/
def StepDescription.part {π : Type} : StepDescription π → π
  | .capture _ part _ | .discard part _ | .bare part => part

/-- A step is built from a description: it has the field and the check, and the grammar of the
part. -/
def StepDescription.Builds (defs : Definitions) (d : StepDescription Description)
    (step : Step (Except Fault) Grammar) : Prop :=
  step.field = d.field ∧ step.check = d.check ∧ d.part.build defs = .ok step.parser

/-- The step that a pending one becomes. -/
def PendingStep.finish (defs : Definitions) :
    PendingStep → Except Fault (Step (Except Fault) Grammar)
  | .ready step => .ok step
  | .bare operand => (operand.resolve defs).map fun g => ⟨none, g, none⟩

/-- A function of lists takes the items one by one if it ends with the first fault and puts one
value after another. -/
theorem eq_mapM_of_cons {σ τ : Type} {f : σ → Except Fault τ}
    (g : List σ → Except Fault (List τ)) (hnil : g [] = .ok [])
    (herror : ∀ item items e, f item = .error e → g (item :: items) = .error e)
    (hok : ∀ item items value, f item = .ok value →
      g (item :: items) = (g items).map (value :: ·)) (items : List σ) :
    g items = items.mapM f := by
  induction items with
  | nil => exact hnil
  | cons item items ih =>
    rw [List.mapM_cons, ← ih]
    cases hitem : f item with
    | error e => exact herror item items e hitem
    | ok value =>
      rw [hok item items value hitem]
      cases g items <;> rfl

/-- Steps are evaluated one by one. -/
theorem evaluateSteps_eq_mapM (defs : Definitions) (steps : List (StepDescription Description)) :
    evaluateSteps defs steps = steps.mapM (evaluateStep defs) :=
  eq_mapM_of_cons (evaluateSteps defs) (by rw [evaluateSteps])
    (fun _ _ _ h => by rw [evaluateSteps, h])
    (fun _ steps _ h => by rw [evaluateSteps, h]; cases evaluateSteps defs steps <;> rfl) steps

/-- Pending steps are finished one by one. -/
theorem finishSteps_eq_mapM (defs : Definitions) (steps : List PendingStep) :
    finishSteps defs steps = steps.mapM (PendingStep.finish defs) := by
  induction steps with
  | nil => rfl
  | cons step steps ih =>
    rw [List.mapM_cons, ← ih]
    cases step with
    | ready step =>
      rw [finishSteps]
      cases finishSteps defs steps <;> rfl
    | bare operand =>
      rw [finishSteps, PendingStep.finish]
      cases operand.resolve defs with
      | error e => rfl
      | ok g => cases finishSteps defs steps <;> rfl

/-- Items that give values together give them one by one. -/
theorem forall₂_of_mapM {σ τ ε : Type} {f : σ → Except ε τ} {items : List σ} {values : List τ}
    (h : items.mapM f = .ok values) :
    List.Forall₂ (fun item value => f item = .ok value) items values := by
  induction items generalizing values with
  | nil =>
    cases h
    exact .nil
  | cons item items ih =>
    rw [List.mapM_cons] at h
    cases hitem : f item with
    | error e =>
      rw [hitem] at h
      cases h
    | ok value =>
      cases hitems : items.mapM f with
      | error e =>
        rw [hitem, hitems] at h
        cases h
      | ok others =>
        rw [hitem, hitems] at h
        cases h
        exact .cons hitem (ih hitems)

/-- What is evaluated is built by resolving it. -/
theorem Description.build_eq_ok {d : Description} {operand : Operand}
    (h : d.evaluate defs = .ok operand) : d.build defs = operand.resolve defs := by
  rw [Description.build, h]

/-- A step that is evaluated and finished is built as it is described. -/
theorem StepDescription.builds_of_finish {d : StepDescription Description} {pending : PendingStep}
    {step : Step (Except Fault) Grammar} (hevaluate : evaluateStep defs d = .ok pending)
    (hfinish : pending.finish defs = .ok step) : d.Builds defs step := by
  cases d with
  | capture name part check | discard part check =>
    simp only [evaluateStep] at hevaluate
    split at hevaluate
    · cases hevaluate
    · next operand hoperand =>
      obtain ⟨g, hg, rfl⟩ := exists_of_map_eq_ok hevaluate
      cases hfinish
      exact ⟨rfl, rfl, (Description.build_eq_ok hoperand).trans hg⟩
  | bare part =>
    obtain ⟨operand, hoperand, rfl⟩ := exists_of_map_eq_ok hevaluate
    obtain ⟨g, hg, rfl⟩ := exists_of_map_eq_ok hfinish
    exact ⟨rfl, rfl, (Description.build_eq_ok hoperand).trans hg⟩

/-- Steps that are evaluated and finished are built as they are described. -/
theorem builds_of_finishSteps {steps : List (StepDescription Description)}
    {pending : List PendingStep} {built : List (Step (Except Fault) Grammar)}
    (hevaluate : List.Forall₂ (fun d step => evaluateStep defs d = .ok step) steps pending)
    (hfinish : List.Forall₂ (fun step done => step.finish defs = .ok done) pending built) :
    List.Forall₂ (StepDescription.Builds defs) steps built := by
  induction hevaluate generalizing built with
  | nil =>
    cases hfinish
    exact .nil
  | cons hstep _ ih =>
    cases hfinish with
    | cons hdone hlater => exact .cons (StepDescription.builds_of_finish hstep hdone) (ih hlater)

/-- A product that is built has the steps that are described, and no two of them capture under one
name. -/
theorem product_of_evaluate {builder : Builder} {steps : List (StepDescription Description)}
    {skipsBetween skipsAround : Bool} {p : Product (Except Fault) Grammar}
    (h : evaluateProduct defs ⟨builder, steps, skipsBetween, skipsAround⟩ = .ok p) :
    ∃ built, p = ⟨builder.build, built, skipsBetween, skipsAround⟩ ∧
      List.Forall₂ (StepDescription.Builds defs) steps built ∧ (fieldNames built).Nodup := by
  simp only [evaluateProduct, evaluateSteps_eq_mapM] at h
  split at h
  · cases h
  · next pending hpending =>
    simp only [productOf, finishSteps_eq_mapM] at h
    split at h
    · cases h
    · split at h
      · cases h
      · next built hbuilt =>
        split at h
        · next hnodup =>
          cases h
          refine ⟨built, rfl, ?_, hnodup⟩
          exact builds_of_finishSteps (forall₂_of_mapM hpending) (forall₂_of_mapM hbuilt)
        · cases h

/-! ### Products with options -/

/-- The step that skips blanks and captures nothing. -/
def blankGrammarStep : Step (Except Fault) Grammar := ⟨none, .leaf .blanks, none⟩

/-- The product without options that has steps for the blanks that are skipped. -/
def ProductDescription.spelledOut (d : ProductDescription Description) :
    ProductDescription Description :=
  ⟨d.builder, withBlanks (.discard (.leaf .blanks) none) d.skipsBetween d.skipsAround d.steps,
    false, false⟩

/-- Reads a value by a description, which is built first. -/
def Description.read (defs : Definitions) (limit : Nat) (d : Description) (s : Cursor) :
    Run (Outcome Value) :=
  (Run.ofExcept (d.evaluate defs)).bind fun operand => TextGrammar.read defs limit operand s

/-- A step that skips blanks is evaluated at once. -/
theorem evaluateStep_blanks (defs : Definitions) :
    evaluateStep defs (.discard (.leaf .blanks) none) = .ok (.ready blankGrammarStep) := by
  simp only [evaluateStep, Description.evaluate, Operand.resolve]
  rfl

/-- A product with steps for the blanks is put together just when it is without them, and has these
steps. -/
theorem productOf_withBlanks (builder : Builder) (between around : Bool) (step : PendingStep)
    (steps : List PendingStep) :
    productOf defs builder (withBlanks (.ready blankGrammarStep) between around (step :: steps))
        false false =
      (productOf defs builder (step :: steps) between around).map
        (Product.spelledOut blankGrammarStep) := by
  have hblank : PendingStep.finish defs (.ready blankGrammarStep) = .ok blankGrammarStep := rfl
  have hsteps : (withBlanks (.ready blankGrammarStep) between around (step :: steps)).isEmpty =
      false := by
    simpa using withBlanks_cons_ne_nil between around step steps
  simp only [productOf, hsteps, finishSteps_eq_mapM, mapM_withBlanks hblank]
  cases (step :: steps).mapM (PendingStep.finish defs) with
  | error e => rfl
  | ok built =>
    have hnames : fieldNames (withBlanks blankGrammarStep between around built) =
        fieldNames built :=
      filterMap_withBlanks rfl between around built
    simp only [Except.map, hnames, Bool.false_eq_true, if_false, List.isEmpty_cons]
    split <;> rfl

/-- A product with options is built just when the one without options is that has steps for the
blanks, and then it has the same steps and steps for the blanks. -/
theorem evaluateProduct_spelledOut (builder : Builder) (step : StepDescription Description)
    (steps : List (StepDescription Description)) (between around : Bool) :
    evaluateProduct defs
        (ProductDescription.spelledOut ⟨builder, step :: steps, between, around⟩) =
      (evaluateProduct defs ⟨builder, step :: steps, between, around⟩).map
        (Product.spelledOut blankGrammarStep) := by
  simp only [ProductDescription.spelledOut, evaluateProduct, evaluateSteps_eq_mapM,
    mapM_withBlanks (evaluateStep_blanks defs), List.mapM_cons]
  cases evaluateStep defs step with
  | error e => rfl
  | ok first =>
    cases steps.mapM (evaluateStep defs) with
    | error e => rfl
    | ok later => exact productOf_withBlanks builder between around first later

/-- The parser of a product with steps for the blanks has such steps. -/
theorem productParser_spelledOut (edge : Option String → Target Description → Parser Value)
    (p : Product (Except Fault) Grammar) :
    productParser edge (p.spelledOut blankGrammarStep) =
      (productParser edge p).spelledOut Parser.blankStep := by
  obtain ⟨build, steps, skipsBetween, skipsAround⟩ := p
  simp only [Product.spelledOut, productParser, stepParsers_eq_map, map_withBlanks]
  rfl

/-- A product with steps for the blanks is read like the one with options. -/
theorem parserWithin_product_spelledOut (p : Product (Except Fault) Grammar) (limit : Nat)
    (s : Cursor) :
    (Grammar.product (p.spelledOut blankGrammarStep)).parserWithin defs limit s =
      (Grammar.product p).parserWithin defs limit s := by
  rw [Grammar.parserWithin_eq, Grammar.parser, productParser_spelledOut, Parser.product_spelledOut,
    Grammar.parserWithin_eq, Grammar.parser]

/-- A variant with steps for the blanks is read like the one with options. -/
theorem parserWithin_variant_spelledOut (name : String) (p : Product (Except Fault) Grammar)
    (limit : Nat) (s : Cursor) :
    (Grammar.variant ⟨name, p.spelledOut blankGrammarStep⟩).parserWithin defs limit s =
      (Grammar.variant ⟨name, p⟩).parserWithin defs limit s := by
  rw [Grammar.parserWithin_eq, Grammar.parser, variantParser, productParser_spelledOut,
    Parser.variant_spelledOut, Grammar.parserWithin_eq, Grammar.parser, variantParser]

/-- Blanks that a product skips are skipped as by steps of its own. The product, or the variant of
any name, is built just when the one without options is that has steps for the blanks between
every two steps or at both ends; and whatever its steps are, the two are read alike at every
cursor. What is compared are runs: the calls of the users' functions and everything else that can be
observed, with the positions of it all, and the match with its start, end and tag, the failure or
the fault that comes of it. -/
theorem Description.read_spelledOut (builder : Builder) (step : StepDescription Description)
    (steps : List (StepDescription Description)) (between around : Bool) (name : Option String)
    (limit : Nat) (s : Cursor) :
    let d : ProductDescription Description := ⟨builder, step :: steps, between, around⟩
    (Description.product d).read defs limit s =
        (Description.product d.spelledOut).read defs limit s ∧
      (Description.variant ⟨name, d⟩).read defs limit s =
        (Description.variant ⟨name, d.spelledOut⟩).read defs limit s := by
  intro d
  have hbuilt : evaluateProduct defs d.spelledOut =
      (evaluateProduct defs d).map (Product.spelledOut blankGrammarStep) :=
    evaluateProduct_spelledOut builder step steps between around
  constructor
  · simp only [Description.read, Description.evaluate, hbuilt]
    cases evaluateProduct defs d with
    | error e => rfl
    | ok p => exact (parserWithin_product_spelledOut p limit s).symm
  · simp only [Description.read, Description.evaluate, evaluateVariant, hbuilt]
    cases evaluateProduct defs d with
    | error e => rfl
    | ok p => exact (parserWithin_variant_spelledOut (name.getD builder.name) p limit s).symm

/-! ### Products without options -/

/-- A grammar reads as a product does, and gives its matches a tag. -/
inductive Product.ReadBy (p : Product (Except Fault) Grammar) : Grammar → Option String → Prop
  | product : p.ReadBy (.product p) none
  | variant (name : String) : p.ReadBy (.variant ⟨name, p⟩) (some name)

/-- A step as it is read. -/
def Step.within (defs : Definitions) (limit : Nat) (step : Step (Except Fault) Grammar) :
    Step Run (Parser Value) :=
  ⟨step.field, step.parser.parserWithin defs limit, observedCheck step.check⟩

/-- The steps are read, and the value is built of what they capture. -/
theorem Product.ReadBy.parserWithin_eq (defs : Definitions)
    {build : List (String × Value) → Except Fault Value}
    {steps : List (Step (Except Fault) Grammar)} {g : Grammar} {tag : Option String}
    (h : Product.ReadBy ⟨build, steps, false, false⟩ g tag) (limit : Nat) (s : Cursor) :
    g.parserWithin defs limit s =
      (Parser.laterFields false (steps.map (Step.within defs limit)) s).ifMatched fun m =>
        (observedBuild build m.value).bind fun value => .matched ⟨value, m.rest, s.pos, tag⟩ := by
  have hsteps : steps.map (Step.within defs limit) = stepParsers (edgeWithin defs limit) steps := by
    rw [stepParsers_eq_map]
    exact List.map_congr_left fun step _ => by rw [Step.within, Grammar.parserWithin_eq]
  rw [Grammar.parserWithin_eq, hsteps]
  cases h with
  | product => exact Parser.product_eq _ _ s
  | variant name => exact Parser.retagged_product_eq _ _ _ s

/-- Reading steps does not change what they capture. -/
theorem fieldsOf_within (limit : Nat) (steps : List (Step (Except Fault) Grammar))
    (values : List Value) :
    fieldsOf (steps.map (Step.within defs limit)) values = fieldsOf steps values := by
  rw [fieldsOf, List.zip_map_left, List.filterMap_map]
  rfl

/-- The names of what steps capture are those of the steps. -/
theorem map_fst_fieldsOf {m : Type → Type} {π : Type} {steps : List (Step m π)}
    {values : List Value} (h : values.length = steps.length) :
    (fieldsOf steps values).map (·.1) = fieldNames steps := by
  induction steps generalizing values with
  | nil => simp [fieldsOf, fieldNames]
  | cons step steps ih =>
    obtain ⟨value, values, rfl⟩ := List.exists_cons_of_length_eq_add_one h
    have hlater := ih (Nat.succ.inj h)
    cases hfield : step.field with
    | none => simpa [fieldsOf, fieldNames, hfield] using hlater
    | some name => simpa [fieldsOf, fieldNames, hfield] using hlater

/-- The names under which built steps capture are the described ones. -/
theorem fieldNames_of_builds {steps : List (StepDescription Description)}
    {built : List (Step (Except Fault) Grammar)}
    (h : List.Forall₂ (StepDescription.Builds defs) steps built) :
    fieldNames built = steps.filterMap StepDescription.field := by
  induction h with
  | nil => rfl
  | cons hstep _ ih =>
    rw [fieldNames, List.filterMap_cons, List.filterMap_cons, hstep.1, ← ih, fieldNames]

/-- Steps that are described without checks have none. -/
theorem unchecked_of_builds {steps : List (StepDescription Description)}
    {built : List (Step (Except Fault) Grammar)}
    (h : List.Forall₂ (StepDescription.Builds defs) steps built)
    (hchecks : ∀ step ∈ steps, step.check = none) : ∀ step ∈ built, step.check = none := by
  induction h with
  | nil => exact fun _ hstep => absurd hstep List.not_mem_nil
  | cons hstep _ ih =>
    rw [List.forall_mem_cons] at hchecks ⊢
    exact ⟨hstep.2.1.trans hchecks.1, ih hchecks.2⟩

/-- A new key is put behind the entries of a table. -/
theorem insertEntry_of_notMem {entries : List (String × Value)} {key : String} (value : Value)
    (h : key ∉ entries.map (·.1)) : insertEntry entries key value = entries ++ [(key, value)] := by
  rw [insertEntry, if_neg]
  simpa using h

/-- Entries under different names all are in the table, in their order. -/
theorem ofEntries_of_nodup {entries : List (String × Value)} (h : (entries.map (·.1)).Nodup) :
    Value.ofEntries entries = .dict entries := by
  have hfill (table : List (String × Value)) (htable : ((table ++ entries).map (·.1)).Nodup) :
      entries.foldl (fun table entry => insertEntry table entry.1 entry.2) table =
        table ++ entries := by
    clear h
    induction entries generalizing table with
    | nil => simp
    | cons entry entries ih =>
      have hnew : entry.1 ∉ table.map (·.1) := by
        intro hmem
        rw [List.map_append, List.nodup_append] at htable
        exact htable.2.2 _ hmem _ List.mem_cons_self rfl
      rw [List.append_cons] at htable
      rw [List.foldl_cons, insertEntry_of_notMem entry.2 hnew, ih _ htable, ← List.append_cons]
  exact congrArg Value.dict (hfill [] h)

/-- What a product without options does. Its steps are the described ones, and no name is captured
twice. They are read in their order, each one where the one before it ended, until one does not
pass: its failure is the failure of the product, and a value that its check rejects gives a failure
at the cursor of the step, with the name and the value, or a fault if the value cannot be written.
If all steps pass, there is a value of each, and those that have a name are what the product is
built of, once and in the order of the steps; a table of them has every one of them.
Without checks the steps are read like the sequence of their parts, and the fields are among
the values of the sequence. -/
theorem product_course {builder : Builder} {steps : List (StepDescription Description)}
    {p : Product (Except Fault) Grammar} {g : Grammar} {tag : Option String}
    (hbuilt : evaluateProduct defs ⟨builder, steps, false, false⟩ = .ok p) (hg : p.ReadBy g tag)
    (limit : Nat) (s : Cursor) :
    List.Forall₂ (StepDescription.Builds defs) steps p.steps ∧
      Parser.Course (p.steps.map (Step.within defs limit)) s
        (fun values t => (observedBuild builder.build (fieldsOf p.steps values)).bind fun value =>
          .matched ⟨value, t, s.pos, tag⟩)
        (g.parserWithin defs limit s) ∧
      (∀ values events t, Parser.Passes (p.steps.map (Step.within defs limit)) s values events t →
        values.length = p.steps.length) ∧
      (∀ values : List Value, values.length = p.steps.length →
        (fieldsOf p.steps values).map (·.1) = steps.filterMap StepDescription.field ∧
          Value.ofEntries (fieldsOf p.steps values) = .dict (fieldsOf p.steps values)) ∧
      ((∀ step ∈ steps, step.check = none) →
        ∃ read : Run (Outcome (List Value)),
          (Grammar.sequence (p.steps.map (·.parser))).parserWithin defs limit s =
              (read.ifMatched fun m => .matched (m.withValue (.tuple m.value))) ∧
            g.parserWithin defs limit s =
              (read.ifMatched fun m =>
                (observedBuild builder.build (fieldsOf p.steps m.value)).bind fun value =>
                  .matched ⟨value, m.rest, s.pos, tag⟩) ∧
            ∀ m, read.answer = .ok (.matched m) → m.value.length = p.steps.length) := by
  obtain ⟨built, rfl, hsteps, hnodup⟩ := product_of_evaluate hbuilt
  have hparser := hg.parserWithin_eq defs limit s
  refine ⟨hsteps, ?_, ?_, ?_, ?_⟩
  · have hcourse := Parser.laterFields_course (built.map (Step.within defs limit)) s
      fun fields t => (observedBuild builder.build fields).bind fun value =>
        Run.matched ⟨value, t, s.pos, tag⟩
    rw [hparser]
    simpa only [fieldsOf_within] using hcourse
  · intro values events t hpasses
    rw [hpasses.length_eq, List.length_map]
  · intro values hlength
    have hnames := map_fst_fieldsOf hlength
    exact ⟨hnames.trans (fieldNames_of_builds hsteps), ofEntries_of_nodup (hnames ▸ hnodup)⟩
  · intro hchecks
    have hunchecked : ∀ step ∈ built.map (Step.within defs limit), step.check = none := by
      rw [List.forall_mem_map]
      intro step hstep
      rw [Step.within, unchecked_of_builds hsteps hchecks step hstep]
      rfl
    refine ⟨Parser.sequence ((built.map (Step.within defs limit)).map (·.parser)) s, ?_, ?_, ?_⟩
    · rw [Grammar.parserWithin_eq, Grammar.parser, parsers_eq_map, List.map_map, List.map_map]
      have hparts : built.map (Grammar.parser (edgeWithin defs limit) ∘ (·.parser)) =
          built.map ((·.parser) ∘ Step.within defs limit) :=
        List.map_congr_left fun step _ => (Grammar.parserWithin_eq limit step.parser).symm
      rw [hparts, Parser.map]
    · rw [hparser, Parser.laterFields_eq_sequence hunchecked, Run.ifMatched_assoc]
      simp only [Run.matched_ifMatched, fieldsOf_within, Cursor.matchTo_value, Cursor.matchTo_rest]
    · intro m hm
      simpa using Parser.length_of_sequence hm

/-- Two characters with a comma between them. -/
def pairSteps : List (StepDescription Description) :=
  [.capture "first" (.leaf .anyChar) none, .bare (.value (.text ",")),
    .capture "second" (.leaf .anyChar) none]

/-- A table of two characters. -/
def pairProduct : Product (Except Fault) Grammar :=
  ⟨Callback.tableBuilder.build,
    [⟨some "first", .leaf .anyChar, none⟩, ⟨none, .leaf (.literal ","), none⟩,
      ⟨some "second", .leaf .anyChar, none⟩], false, false⟩

/-- Pairs are read like sequences of three, and no character is lost. -/
theorem pair_course :
    evaluateProduct ⟨[]⟩ ⟨Callback.tableBuilder, pairSteps, false, false⟩ = .ok pairProduct ∧
      pairProduct.ReadBy (.variant ⟨"pair", pairProduct⟩) (some "pair") ∧
      (∀ step ∈ pairSteps, step.check = none) ∧
      Value.ofEntries (fieldsOf pairProduct.steps [.text "1", .text ",", .text "2"]) =
        .dict [("first", .text "1"), ("second", .text "2")] ∧
      ∃ read : Run (Outcome (List Value)),
        (Grammar.sequence [.leaf .anyChar, .leaf (.literal ","), .leaf .anyChar]).parserWithin ⟨[]⟩
            1 (.ofText "1,2") = (read.ifMatched fun m => .matched (m.withValue (.tuple m.value))) ∧
          (Grammar.variant ⟨"pair", pairProduct⟩).parserWithin ⟨[]⟩ 1 (.ofText "1,2") =
            read.ifMatched fun m =>
              (observedBuild Callback.tableBuilder.build
                (fieldsOf pairProduct.steps m.value)).bind fun value =>
                  .matched ⟨value, m.rest, 0, some "pair"⟩ := by
  have hbuilt : evaluateProduct ⟨[]⟩ ⟨Callback.tableBuilder, pairSteps, false, false⟩ =
      .ok pairProduct := by cbv
  have hread : pairProduct.ReadBy (.variant ⟨"pair", pairProduct⟩) (some "pair") := .variant "pair"
  have hchecks : ∀ step ∈ pairSteps, step.check = none := by simp [pairSteps, StepDescription.check]
  obtain ⟨-, -, -, hfields, hsequence⟩ := product_course hbuilt hread 1 (.ofText "1,2")
  obtain ⟨read, hparts, hvariant, -⟩ := hsequence hchecks
  exact ⟨hbuilt, hread, hchecks, (hfields _ rfl).2, read, hparts, hvariant⟩

/-! ### Rejected values without a text -/

/-- An integer of any size, which is always rejected. -/
def rejectedSteps : List (StepDescription Description) :=
  [.capture "number" (.leaf (.unsigned none)) (some (Callback.const false))]

/-- A table of an integer of any size, which is always rejected. -/
def rejectedProduct : Product (Except Fault) Grammar :=
  ⟨Callback.tableBuilder.build,
    [⟨some "number", .leaf (.unsigned none), some (Callback.const false)⟩], false, false⟩

/-- The integer is read, whatever comes of it then. -/
theorem parserWithin_unsigned_writeNat (defs : Definitions) (limit n : Nat) :
    (Grammar.leaf (.unsigned none)).parserWithin defs limit (.ofText (Text.writeNat n)) =
      .matched ((Cursor.ofText (Text.writeNat n)).matchTo (.int n)
        ((Cursor.ofText (Text.writeNat n)).skip (Text.writeNat n).toList.length)) := by
  have hread := Leaf.reading_unsigned_writeNat n
  rw [← Cursor.rest_ofText] at hread
  rw [Grammar.parserWithin_eq, Grammar.parser, (Leaf.parser_reads _).matched hread,
    Cursor.rest_ofText]

/-- An integer of too many digits has no text. -/
theorem Value.isWritable_of_le {n : Nat} (h : 10 ^ maxDigits ≤ n) :
    (Value.int n).isWritable = false := by
  simp [Bool.eq_false_iff, Value.isWritable_int, h]

/-- No failure comes of an integer of too many digits that is rejected, but a fault. -/
theorem rejectedProduct_read {n : Nat} (hn : 10 ^ maxDigits ≤ n) (defs : Definitions)
    (limit : Nat) :
    (Grammar.product rejectedProduct).parserWithin defs limit (.ofText (Text.writeNat n)) =
      ⟨[.called (.check (.int n)), .called (.show (.int n)), .raised .tooManyDigits],
        .error .tooManyDigits⟩ := by
  have hproduct : rejectedProduct.ReadBy (.product rejectedProduct) none := .product
  have hread := parserWithin_unsigned_writeNat defs limit n
  have hstops : Parser.Stops (Step.within defs limit
      ⟨some "number", .leaf (.unsigned none), some (Callback.const false)⟩)
      (.ofText (Text.writeNat n)) _ (.error .tooManyDigits) :=
    .unwritable (congrArg Run.answer hread) rfl (Value.isWritable_of_le hn)
  rw [hproduct.parserWithin_eq defs limit, List.map_singleton, Parser.laterFields_cons,
    Parser.stepFields_of_stops hstops, Run.ifMatched_of_error rfl, Run.ifMatched_of_error rfl]
  change Run.mk (((Grammar.leaf _).parserWithin defs limit _).events ++ _ ++ _) _ = _
  rw [hread]
  rfl

/-- A product reads an integer of too many digits and its check rejects it, but the product does not
fail: it ends with a fault. -/
theorem rejectedProduct_raises :
    evaluateProduct ⟨[]⟩ ⟨Callback.tableBuilder, rejectedSteps, false, false⟩ =
        .ok rejectedProduct ∧
      (∃ m, ((Grammar.leaf (.unsigned none)).parserWithin ⟨[]⟩ 1
          (.ofText (Text.writeNat (10 ^ maxDigits)))).answer = .ok (.matched m) ∧
        Callback.const false m.value = .ok false) ∧
      ((Grammar.product rejectedProduct).parserWithin ⟨[]⟩ 1
        (.ofText (Text.writeNat (10 ^ maxDigits)))).answer = .error .tooManyDigits := by
  have hpart := parserWithin_unsigned_writeNat ⟨[]⟩ 1 (10 ^ maxDigits)
  have hread := rejectedProduct_read (Nat.le_refl (10 ^ maxDigits)) ⟨[]⟩ 1
  exact ⟨by cbv, ⟨_, congrArg Run.answer hpart, rfl⟩, congrArg Run.answer hread⟩

end TextGrammar
