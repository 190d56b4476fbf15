import TextGrammar.Proofs.Grammar.Reach

/-!
# Exits

The edges and the user's own parsers that are written down in a grammar, also in the
descriptions that its edges lead to. These are finitely many, and together with those of
the definitions they are all that a reading can come to, however often it follows an edge.
-/

namespace TextGrammar

/-! ### The exits of descriptions -/

mutual

/-- The edges and the user's own parsers that are written down in a description. -/
def Description.exits : Description → List Grammar
  | .value _ | .named _ | .leaf _ | .char _ | .literal _ | .satisfy _ _ => []
  | .sequence parts | .oneOf parts | .optional parts _ | .many parts | .many1 parts =>
    exitsOfAll parts
  | .map part _ | .probed _ part | .retagged _ part => part.exits
  | .product p => exitsOfProduct p
  | .variant v => exitsOfVariant v
  | .sum variants => exitsOfVariants variants
  | .edge label target => .edge label target :: exitsOfTarget target
  | .custom parser => [.custom parser]

/-- The exits of some descriptions. -/
def exitsOfAll : List Description → List Grammar
  | [] => []
  | part :: parts => part.exits ++ exitsOfAll parts

/-- The exits of a described step. -/
def exitsOfStep : StepDescription Description → List Grammar
  | .capture _ part _ | .discard part _ | .bare part => part.exits

/-- The exits of some described steps. -/
def exitsOfSteps : List (StepDescription Description) → List Grammar
  | [] => []
  | step :: steps => exitsOfStep step ++ exitsOfSteps steps

/-- The exits of a described product. -/
def exitsOfProduct : ProductDescription Description → List Grammar
  | ⟨_, steps, _, _⟩ => exitsOfSteps steps

/-- The exits of a described variant. -/
def exitsOfVariant : VariantDescription Description → List Grammar
  | ⟨_, p⟩ => exitsOfProduct p

/-- The exits of some described variants. -/
def exitsOfVariants : List (VariantDescription Description) → List Grammar
  | [] => []
  | v :: vs => exitsOfVariant v ++ exitsOfVariants vs

/-- The exits that are written down where an edge leads to. -/
def exitsOfTarget : Target Description → List Grammar
  | .named _ | .raising _ => []
  | .described part => part.exits

end

/-! ### The exits of grammars -/

mutual

/-- The edges and the user's own parsers that are written down in a grammar. -/
def Grammar.exits : Grammar → List Grammar
  | .leaf _ | .satisfy _ _ => []
  | .sequence parts | .oneOf parts => exitsOfParts parts
  | .optional part _ | .many part | .many1 part | .map part _ | .probed _ part
  | .retagged _ part => part.exits
  | .product p => exitsOfBuilt p
  | .variant v => exitsOfNamed v
  | .sum variants => exitsOfSum variants
  | .edge label target => .edge label target :: exitsOfTarget target
  | .custom parser => [.custom parser]

/-- The exits of some grammars. -/
def exitsOfParts : List Grammar → List Grammar
  | [] => []
  | part :: parts => part.exits ++ exitsOfParts parts

/-- The exits of some steps. -/
def exitsOfBuiltSteps : List (Step (Except Fault) Grammar) → List Grammar
  | [] => []
  | ⟨_, part, _⟩ :: steps => part.exits ++ exitsOfBuiltSteps steps

/-- The exits of a product. -/
def exitsOfBuilt : Product (Except Fault) Grammar → List Grammar
  | ⟨_, steps, _, _⟩ => exitsOfBuiltSteps steps

/-- The exits of a variant. -/
def exitsOfNamed : Variant (Except Fault) Grammar → List Grammar
  | ⟨_, p⟩ => exitsOfBuilt p

/-- The exits of some variants. -/
def exitsOfSum : List (Variant (Except Fault) Grammar) → List Grammar
  | [] => []
  | v :: vs => exitsOfNamed v ++ exitsOfSum vs

end

/-- The exits of all definitions. -/
def Definitions.exits (defs : Definitions) : List Grammar :=
  defs.entries.flatMap fun definition => (definition.grammar.map Grammar.exits).getD []

/-- The exits that are written down in what a description stands for. -/
def Operand.exits : Operand → List Grammar
  | .value _ | .named _ => []
  | .grammar g => g.exits

/-- The exits of a step that is to be resolved. -/
def PendingStep.exits : PendingStep → List Grammar
  | .ready step => step.parser.exits
  | .bare operand => operand.exits

variable {E : List Grammar}

/-- The exits of some grammars are those of each of them. -/
theorem exitsOfParts_subset_iff {parts : List Grammar} :
    exitsOfParts parts ⊆ E ↔ ∀ p ∈ parts, p.exits ⊆ E := by
  induction parts with
  | nil => simp [exitsOfParts]
  | cons p parts ih => rw [exitsOfParts, List.append_subset, ih, List.forall_mem_cons]

/-- The exits of a product are those of its steps. -/
theorem exitsOfBuilt_subset_iff {p : Product (Except Fault) Grammar} :
    exitsOfBuilt p ⊆ E ↔ ∀ step ∈ p.steps, step.parser.exits ⊆ E := by
  obtain ⟨build, steps, skipsBetween, skipsAround⟩ := p
  rw [exitsOfBuilt]
  induction steps with
  | nil => simp [exitsOfBuiltSteps]
  | cons step steps ih =>
    cases step
    rw [exitsOfBuiltSteps, List.append_subset, ih, List.forall_mem_cons]

/-- The exits of a variant are those of its steps. -/
theorem exitsOfNamed_subset_iff {v : Variant (Except Fault) Grammar} :
    exitsOfNamed v ⊆ E ↔ ∀ step ∈ v.product.steps, step.parser.exits ⊆ E := by
  cases v
  exact exitsOfBuilt_subset_iff

/-- The exits of some variants are those of all their steps. -/
theorem exitsOfSum_subset_iff {variants : List (Variant (Except Fault) Grammar)} :
    exitsOfSum variants ⊆ E ↔
      ∀ v ∈ variants, ∀ step ∈ v.product.steps, step.parser.exits ⊆ E := by
  induction variants with
  | nil => simp [exitsOfSum]
  | cons v vs ih =>
    rw [exitsOfSum, List.append_subset, ih, exitsOfNamed_subset_iff, List.forall_mem_cons]

/-- What is written down in a part is written down in the grammar. -/
theorem Grammar.exits_part {g p : Grammar} (hg : g.exits ⊆ E) (hp : p ∈ g.parts) :
    p.exits ⊆ E := by
  cases g with
  | leaf _ | satisfy _ _ | edge _ _ | custom _ => simp [parts] at hp
  | sequence _ | oneOf _ => exact exitsOfParts_subset_iff.mp hg p hp
  | optional part _ | many part | many1 part | map part _ | probed _ part | retagged _ part =>
    obtain rfl : p = part := by simpa [parts] using hp
    exact hg
  | product _ =>
    obtain ⟨step, hstep, rfl⟩ := List.mem_map.mp hp
    exact exitsOfBuilt_subset_iff.mp hg step hstep
  | variant _ =>
    obtain ⟨step, hstep, rfl⟩ := List.mem_map.mp hp
    exact exitsOfNamed_subset_iff.mp hg step hstep
  | sum _ =>
    obtain ⟨v, hv, hpart⟩ := List.mem_flatMap.mp hp
    obtain ⟨step, hstep, rfl⟩ := List.mem_map.mp hpart
    exact exitsOfSum_subset_iff.mp hg v hv step hstep

/-! ### Building keeps the exits -/

section Build

variable {defs : Definitions}

/-- A name stands for a grammar among the definitions. -/
theorem Definitions.exits_grammarOf {name : String} {g : Grammar}
    (h : defs.grammarOf name = .ok g) : g.exits ⊆ defs.exits := by
  cases hfind : defs.find? name with
  | none => simp [grammarOf, hfind] at h
  | some definition =>
    cases hgrammar : definition.grammar with
    | none => simp [grammarOf, hfind, hgrammar] at h
    | some built =>
      obtain rfl : built = g := by simpa [grammarOf, hfind, hgrammar] using h
      intro e he
      refine List.mem_flatMap.mpr ⟨definition, List.mem_of_find?_eq_some hfind, ?_⟩
      simpa [hgrammar] using he

/-- A result that is changed into a value comes from a value. -/
theorem exists_of_map_eq_ok {α β : Type} {f : α → β} {result : Except Fault α} {b : β}
    (h : result.map f = .ok b) : ∃ a, result = .ok a ∧ f a = b := by
  cases result with
  | ok a => exact ⟨a, rfl, Except.ok.inj h⟩
  | error e => cases h

/-- A literal text has no exits. -/
theorem literalGrammar_exits {text : String} {g : Grammar} (h : literalGrammar text = .ok g) :
    g.exits = [] := by
  simp only [literalGrammar] at h
  split at h
  · cases h
  · cases h
    rfl

/-- Everything that an operand stands for is written down in it or in a definition. -/
theorem Operand.exits_resolve (hdefs : defs.exits ⊆ E) {operand : Operand} {g : Grammar}
    (h : operand.resolve defs = .ok g) (hoperand : operand.exits ⊆ E) : g.exits ⊆ E := by
  cases operand with
  | value v =>
    cases v with
    | text text =>
      rw [literalGrammar_exits h]
      exact List.nil_subset E
    | _ => cases h
  | named name => exact fun e he => hdefs (Definitions.exits_grammarOf h he)
  | grammar built =>
    obtain rfl : built = g := Except.ok.inj h
    exact hoperand

/-- What operands are resolved to has no exits but theirs and those of the definitions. -/
theorem exits_resolveAll (hdefs : defs.exits ⊆ E) {operands : List Operand} {gs : List Grammar}
    (h : resolveAll defs operands = .ok gs) (hoperands : ∀ operand ∈ operands, operand.exits ⊆ E) :
    ∀ g ∈ gs, g.exits ⊆ E := by
  induction operands generalizing gs with
  | nil =>
    cases h
    simp
  | cons operand operands ih =>
    simp only [resolveAll] at h
    split at h
    · cases h
    · next g hg =>
      split at h
      · cases h
      · next others hothers =>
        cases h
        rw [List.forall_mem_cons] at hoperands ⊢
        exact ⟨Operand.exits_resolve hdefs hg hoperands.1, ih hothers hoperands.2⟩

/-- A sequence of operands has no exits but theirs and those of the definitions. -/
theorem exits_sequenceOf (hdefs : defs.exits ⊆ E) {operands : List Operand} {g : Grammar}
    (h : sequenceOf defs operands = .ok g) (hoperands : ∀ operand ∈ operands, operand.exits ⊆ E) :
    g.exits ⊆ E := by
  simp only [sequenceOf] at h
  split at h
  · obtain ⟨gs, hgs, rfl⟩ := exists_of_map_eq_ok h
    exact exitsOfParts_subset_iff.mpr (exits_resolveAll hdefs hgs hoperands)
  · cases h

/-- A choice between operands has no exits but theirs and those of the definitions. -/
theorem exits_oneOfOf (hdefs : defs.exits ⊆ E) {operands : List Operand} {g : Grammar}
    (h : oneOfOf defs operands = .ok g) (hoperands : ∀ operand ∈ operands, operand.exits ⊆ E) :
    g.exits ⊆ E := by
  simp only [oneOfOf] at h
  split at h
  · cases h
  · obtain ⟨gs, hgs, rfl⟩ := exists_of_map_eq_ok h
    exact exitsOfParts_subset_iff.mpr (exits_resolveAll hdefs hgs hoperands)

/-- A single operand or a sequence has no exits but theirs and those of the definitions. -/
theorem exits_singleOrSequence (hdefs : defs.exits ⊆ E) {operands : List Operand} {g : Grammar}
    (h : singleOrSequence defs operands = .ok g)
    (hoperands : ∀ operand ∈ operands, operand.exits ⊆ E) : g.exits ⊆ E := by
  cases operands with
  | nil => cases h
  | cons operand operands =>
    cases operands with
    | nil => exact Operand.exits_resolve hdefs h (hoperands operand List.mem_cons_self)
    | cons second operands => exact exits_sequenceOf hdefs h hoperands

/-- Steps that are finished have no exits but those of the pending ones and of the definitions. -/
theorem exits_finishSteps (hdefs : defs.exits ⊆ E) {pending : List PendingStep}
    {steps : List (Step (Except Fault) Grammar)} (h : finishSteps defs pending = .ok steps)
    (hpending : ∀ step ∈ pending, step.exits ⊆ E) : ∀ step ∈ steps, step.parser.exits ⊆ E := by
  induction pending generalizing steps with
  | nil =>
    cases h
    simp
  | cons first pending ih =>
    rw [List.forall_mem_cons] at hpending
    obtain ⟨hfirst, hlater⟩ := hpending
    cases first with
    | ready step =>
      simp only [finishSteps] at h
      split at h
      · cases h
      · next done hdone =>
        cases h
        exact List.forall_mem_cons.mpr ⟨hfirst, ih hdone hlater⟩
    | bare operand =>
      simp only [finishSteps] at h
      split at h
      · cases h
      · next g hg =>
        split at h
        · cases h
        · next done hdone =>
          cases h
          exact List.forall_mem_cons.mpr
            ⟨Operand.exits_resolve hdefs hg hfirst, ih hdone hlater⟩

/-- A product that is put together has no exits but those of its steps and of the definitions. -/
theorem exits_productOf (hdefs : defs.exits ⊆ E) {builder : Builder} {pending : List PendingStep}
    {skipsBetween skipsAround : Bool} {p : Product (Except Fault) Grammar}
    (h : productOf defs builder pending skipsBetween skipsAround = .ok p)
    (hpending : ∀ step ∈ pending, step.exits ⊆ E) : ∀ step ∈ p.steps, step.parser.exits ⊆ E := by
  simp only [productOf] at h
  split at h
  · cases h
  · split at h
    · cases h
    · next done hdone =>
      split at h
      · cases h
        exact exits_finishSteps hdefs hdone hpending
      · cases h

mutual

/-- What a description stands for has no exits but those that are written down in it or in a
definition. -/
theorem Description.exits_evaluate (hdefs : defs.exits ⊆ E) {operand : Operand} :
    ∀ {d : Description}, d.evaluate defs = .ok operand → d.exits ⊆ E → operand.exits ⊆ E
  | .value _, h, _ | .named _, h, _ => by
    cases h
    exact List.nil_subset E
  | .leaf _, h, hd | .satisfy _ _, h, hd | .edge _ _, h, hd | .custom _, h, hd => by
    cases h
    exact hd
  | .char text, h, _ => by
    obtain ⟨g, hg, rfl⟩ := exists_of_map_eq_ok h
    simp only [charGrammar] at hg
    split at hg <;> cases hg
    exact List.nil_subset E
  | .literal text, h, _ => by
    obtain ⟨g, hg, rfl⟩ := exists_of_map_eq_ok h
    rw [Operand.exits, literalGrammar_exits hg]
    exact List.nil_subset E
  | .sequence parts, h, hd => by
    simp only [Description.evaluate] at h
    split at h
    · cases h
    · next operands hoperands =>
      obtain ⟨g, hg, rfl⟩ := exists_of_map_eq_ok h
      exact exits_sequenceOf hdefs hg (exits_evaluateAll hdefs hoperands hd)
  | .oneOf parts, h, hd => by
    simp only [Description.evaluate] at h
    split at h
    · cases h
    · next operands hoperands =>
      obtain ⟨g, hg, rfl⟩ := exists_of_map_eq_ok h
      exact exits_oneOfOf hdefs hg (exits_evaluateAll hdefs hoperands hd)
  | .optional parts _, h, hd | .many parts, h, hd | .many1 parts, h, hd => by
    simp only [Description.evaluate] at h
    split at h
    · cases h
    · next operands hoperands =>
      obtain ⟨g, hg, rfl⟩ := exists_of_map_eq_ok h
      have hpart := exits_singleOrSequence hdefs hg (exits_evaluateAll hdefs hoperands hd)
      exact hpart
  | .map part _, h, hd | .probed _ part, h, hd | .retagged _ part, h, hd => by
    simp only [Description.evaluate] at h
    split at h
    · cases h
    · next operand hoperand =>
      obtain ⟨g, hg, rfl⟩ := exists_of_map_eq_ok h
      have hpart := Operand.exits_resolve hdefs hg (Description.exits_evaluate hdefs hoperand hd)
      exact hpart
  | .product p, h, hd => by
    obtain ⟨built, hbuilt, rfl⟩ := exists_of_map_eq_ok h
    exact exitsOfBuilt_subset_iff.mpr (exits_evaluateProduct hdefs hbuilt hd)
  | .variant v, h, hd => by
    obtain ⟨built, hbuilt, rfl⟩ := exists_of_map_eq_ok h
    exact exitsOfNamed_subset_iff.mpr (exits_evaluateVariant hdefs hbuilt hd)
  | .sum variants, h, hd => by
    simp only [Description.evaluate] at h
    split at h
    · cases h
    · cases h
    · next built hbuilt =>
      cases h
      exact exitsOfSum_subset_iff.mpr (exits_evaluateVariants hdefs hbuilt hd)

/-- What parts are evaluated to has no exits but theirs and those of the definitions. -/
theorem exits_evaluateAll (hdefs : defs.exits ⊆ E) :
    ∀ {parts : List Description} {operands : List Operand}, evaluateAll defs parts = .ok operands →
      exitsOfAll parts ⊆ E → ∀ operand ∈ operands, operand.exits ⊆ E
  | [], _, h, _ => by
    cases h
    simp
  | part :: parts, _, h, hparts => by
    simp only [evaluateAll] at h
    split at h
    · cases h
    · next operand hoperand =>
      split at h
      · cases h
      · next operands hoperands =>
        cases h
        obtain ⟨hpart, hlater⟩ := List.append_subset.mp hparts
        exact List.forall_mem_cons.mpr ⟨Description.exits_evaluate hdefs hoperand hpart,
          exits_evaluateAll hdefs hoperands hlater⟩

/-- A step that is evaluated has no exits but its own and those of the definitions. -/
theorem exits_evaluateStep (hdefs : defs.exits ⊆ E) {pending : PendingStep} :
    ∀ {step : StepDescription Description}, evaluateStep defs step = .ok pending →
      exitsOfStep step ⊆ E → pending.exits ⊆ E
  | .capture _ part _, h, hstep | .discard part _, h, hstep => by
    simp only [evaluateStep] at h
    split at h
    · cases h
    · next operand hoperand =>
      obtain ⟨g, hg, rfl⟩ := exists_of_map_eq_ok h
      exact Operand.exits_resolve hdefs hg (Description.exits_evaluate hdefs hoperand hstep)
  | .bare part, h, hstep => by
    obtain ⟨operand, hoperand, rfl⟩ := exists_of_map_eq_ok h
    exact Description.exits_evaluate hdefs hoperand hstep

/-- Steps that are evaluated have no exits but theirs and those of the definitions. -/
theorem exits_evaluateSteps (hdefs : defs.exits ⊆ E) :
    ∀ {steps : List (StepDescription Description)} {pending : List PendingStep},
      evaluateSteps defs steps = .ok pending → exitsOfSteps steps ⊆ E →
        ∀ step ∈ pending, step.exits ⊆ E
  | [], _, h, _ => by
    cases h
    simp
  | step :: steps, _, h, hsteps => by
    simp only [evaluateSteps] at h
    split at h
    · cases h
    · next first hfirst =>
      split at h
      · cases h
      · next others hothers =>
        cases h
        obtain ⟨hstep, hlater⟩ := List.append_subset.mp hsteps
        exact List.forall_mem_cons.mpr ⟨exits_evaluateStep hdefs hfirst hstep,
          exits_evaluateSteps hdefs hothers hlater⟩

/-- A product that is evaluated has no exits but its own and those of the definitions. -/
theorem exits_evaluateProduct (hdefs : defs.exits ⊆ E) {built : Product (Except Fault) Grammar} :
    ∀ {p : ProductDescription Description}, evaluateProduct defs p = .ok built →
      exitsOfProduct p ⊆ E → ∀ step ∈ built.steps, step.parser.exits ⊆ E
  | ⟨builder, steps, skipsBetween, skipsAround⟩, h, hp => by
    simp only [evaluateProduct] at h
    split at h
    · cases h
    · next pending hpending =>
      exact exits_productOf hdefs h (exits_evaluateSteps hdefs hpending hp)

/-- A variant that is evaluated has no exits but its own and those of the definitions. -/
theorem exits_evaluateVariant (hdefs : defs.exits ⊆ E) {built : Variant (Except Fault) Grammar} :
    ∀ {v : VariantDescription Description}, evaluateVariant defs v = .ok built →
      exitsOfVariant v ⊆ E → ∀ step ∈ built.product.steps, step.parser.exits ⊆ E
  | ⟨name, p⟩, h, hv => by
    obtain ⟨product, hproduct, rfl⟩ := exists_of_map_eq_ok h
    exact exits_evaluateProduct hdefs hproduct hv

/-- Variants that are evaluated have no exits but theirs and those of the definitions. -/
theorem exits_evaluateVariants (hdefs : defs.exits ⊆ E) :
    ∀ {variants : List (VariantDescription Description)}
      {built : List (Variant (Except Fault) Grammar)}, evaluateVariants defs variants = .ok built →
        exitsOfVariants variants ⊆ E →
          ∀ v ∈ built, ∀ step ∈ v.product.steps, step.parser.exits ⊆ E
  | [], _, h, _ => by
    cases h
    simp
  | v :: vs, _, h, hvariants => by
    simp only [evaluateVariants] at h
    split at h
    · cases h
    · next first hfirst =>
      split at h
      · cases h
      · next others hothers =>
        cases h
        obtain ⟨hv, hlater⟩ := List.append_subset.mp hvariants
        exact List.forall_mem_cons.mpr ⟨exits_evaluateVariant hdefs hfirst hv,
          exits_evaluateVariants hdefs hothers hlater⟩

end

/-- What an edge leads to has no exits but those written down there and in the definitions. -/
theorem Target.exits_resolve (hdefs : defs.exits ⊆ E) {target : Target Description} {g : Grammar}
    (h : target.resolve defs = .ok g) (htarget : exitsOfTarget target ⊆ E) : g.exits ⊆ E := by
  cases target with
  | named name =>
    simp only [Target.resolve] at h
    split at h
    · exact fun e he => hdefs (Definitions.exits_grammarOf h he)
    · cases h
  | described d =>
    simp only [Target.resolve, Description.build] at h
    split at h
    · cases h
    · next operand hoperand =>
      exact Operand.exits_resolve hdefs h (Description.exits_evaluate hdefs hoperand htarget)
  | raising e => cases h

/-- Wherever a reading comes to, it finds no exits but those that are written down in its grammar or
in a definition. -/
theorem Grammar.Reaches.exits_subset {g h : Grammar} (hreach : g.Reaches defs h) :
    h.exits ⊆ g.exits ++ defs.exits := by
  have hdefs : defs.exits ⊆ g.exits ++ defs.exits := List.subset_append_right _ _
  refine hreach.of_closed (S := fun h => h.exits ⊆ g.exits ++ defs.exits) ?_ ?_
    (List.subset_append_left _ _)
  · exact fun h hexits p hp => Grammar.exits_part hexits hp
  · intro label target h hexits hresolve
    exact Target.exits_resolve hdefs hresolve (List.cons_subset.mp hexits).2

/-- A grammar in which no user's own parser is written down is standard, if the definitions are. -/
theorem Grammar.isStandard_of_exits {g : Grammar}
    (h : ∀ parser, .custom parser ∉ g.exits ++ defs.exits) : g.IsStandard defs :=
  fun parser hreach => h parser (hreach.exits_subset List.mem_cons_self)

end Build

/-! ### An example -/

/-- Something in brackets. -/
def bracketed (inside : Grammar) : Grammar :=
  .sequence [.leaf (.literal "["), inside, .leaf (.literal "]")]

/-- The edge to digits in brackets. -/
def brackets : Grammar := .edge none (.named "brackets")

/-- A digit in brackets, nested to any depth. -/
def nestedBrackets : Definitions :=
  ⟨[⟨"brackets", none, some (.oneOf [bracketed brackets, .leaf .digit])⟩]⟩

/-- No parser of a user's own is in nested brackets. -/
theorem brackets_isStandard : brackets.IsStandard nestedBrackets := by
  apply Grammar.isStandard_of_exits
  intro parser hmem
  simp [brackets, nestedBrackets, bracketed, Definitions.exits, Grammar.exits, exitsOfParts,
    exitsOfTarget] at hmem

/-- The brackets stand for a choice between something in brackets and a digit. -/
theorem resolve_brackets :
    (Target.named "brackets").resolve nestedBrackets =
      .ok (.oneOf [bracketed brackets, .leaf .digit]) := by
  simp [Target.resolve, Definitions.find?, Definitions.grammarOf, nestedBrackets]

/-- All that a reading of nested brackets comes to. -/
theorem brackets_reaches {h : Grammar} (hreach : brackets.Reaches nestedBrackets h) :
    h = brackets ∨ h = .oneOf [bracketed brackets, .leaf .digit] ∨ h = bracketed brackets ∨
      ∃ l, h = .leaf l := by
  refine hreach.of_closed (S := fun h => h = brackets ∨
    h = .oneOf [bracketed brackets, .leaf .digit] ∨ h = bracketed brackets ∨ ∃ l, h = .leaf l)
    ?_ ?_ (.inl rfl)
  · rintro g (rfl | rfl | rfl | ⟨l, rfl⟩) p hp
    · simp [brackets, Grammar.parts] at hp
    · simp only [Grammar.parts, List.mem_cons, List.not_mem_nil, or_false] at hp
      rcases hp with rfl | rfl
      · exact .inr (.inr (.inl rfl))
      · exact .inr (.inr (.inr ⟨_, rfl⟩))
    · simp only [bracketed, Grammar.parts, List.mem_cons, List.not_mem_nil, or_false] at hp
      rcases hp with rfl | rfl | rfl
      · exact .inr (.inr (.inr ⟨_, rfl⟩))
      · exact .inl rfl
      · exact .inr (.inr (.inr ⟨_, rfl⟩))
    · simp [Grammar.parts] at hp
  · rintro label target g (hedge | hedge | hedge | ⟨l, hedge⟩) hresolve
    · cases hedge
      rw [resolve_brackets] at hresolve
      exact .inr (.inl (Except.ok.inj hresolve).symm)
    all_goals cases hedge

end TextGrammar
