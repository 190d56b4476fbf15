import TextGrammar.Proofs.Grammar.Building

/-!
# Malformed descriptions

Which descriptions are not built. Each constructor checks what it is given itself, and what it is
given has been built before; so a description is refused exactly if there is something in it, at
whatever depth, that does not pass its own check. What an edge leads to is not looked at.
-/

namespace TextGrammar

variable {defs : Definitions}

/-! ### Parts of descriptions -/

/-- The descriptions that a description is made of. What an edge leads to is no part of it. -/
def Description.parts : Description → List Description
  | .value _ | .named _ | .leaf _ | .char _ | .literal _ | .satisfy _ _ | .edge _ _
  | .custom _ => []
  | .sequence parts | .oneOf parts | .optional parts _ | .many parts | .many1 parts => parts
  | .map part _ | .probed _ part | .retagged _ part => [part]
  | .product p => p.steps.map (·.part)
  | .variant v => v.product.steps.map (·.part)
  | .sum variants => variants.map .variant

/-- Induction over the parts of a description, whatever its kind. -/
theorem Description.induction_parts {motive : Description → Prop}
    (whole : ∀ d, (∀ p ∈ Description.parts d, motive p) → motive d) (d : Description) : motive d :=
  have single : ∀ {d p}, Description.parts d = [p] → motive p → motive d :=
    fun hparts hp => whole _ (by simpa [hparts] using hp)
  have steps : ∀ {d} {steps : List (StepDescription Description)},
      Description.parts d = steps.map (·.part) → (∀ step ∈ steps, motive step.part) → motive d :=
    fun hparts hsteps => whole _ (by simpa [hparts] using hsteps)
  @Description.rec motive
    (fun parts => ∀ p ∈ parts, motive p)
    (fun p => ∀ step ∈ p.steps, motive step.part)
    (fun v => motive (.variant v))
    (fun variants => ∀ v ∈ variants, motive (.variant v))
    (fun _ => True)
    (fun steps => ∀ step ∈ steps, motive step.part)
    (fun step => motive step.part)
    (fun _ => whole _ (by simp [parts])) (fun _ => whole _ (by simp [parts]))
    (fun _ => whole _ (by simp [parts])) (fun _ => whole _ (by simp [parts]))
    (fun _ => whole _ (by simp [parts])) (fun _ _ => whole _ (by simp [parts]))
    (fun _ ih => whole _ ih) (fun _ ih => whole _ ih) (fun _ _ ih => whole _ ih)
    (fun _ ih => whole _ ih) (fun _ ih => whole _ ih)
    (fun _ _ ih => single rfl ih)
    (fun _ ih => steps rfl ih) (fun _ ih => ih) (fun _ ih => whole _ (by simpa [parts] using ih))
    (fun _ _ _ => whole _ (by simp [parts]))
    (fun _ _ ih => single rfl ih) (fun _ _ ih => single rfl ih)
    (fun _ => whole _ (by simp [parts]))
    (by simp) (fun _ _ ih ihs => List.forall_mem_cons.mpr ⟨ih, ihs⟩)
    (fun _ _ _ _ ih => ih)
    (fun _ _ ih => steps rfl ih)
    (by simp) (fun _ _ ih ihs => List.forall_mem_cons.mpr ⟨ih, ihs⟩)
    (fun _ => trivial) (fun _ _ => trivial) (fun _ => trivial)
    (by simp) (fun _ _ ih ihs => List.forall_mem_cons.mpr ⟨ih, ihs⟩)
    (fun _ _ _ ih => ih) (fun _ _ ih => ih) (fun _ ih => ih)
    d

/-! ### What a constructor checks itself -/

/-- A product without steps, or one that captures twice under one name. -/
def ProductDescription.IsFlawed (d : ProductDescription Description) : Prop :=
  d.steps = [] ∨ ¬(d.steps.filterMap StepDescription.field).Nodup

/-- A description that is malformed by itself, whatever its parts are. -/
def Description.IsFlawed (defs : Definitions) : Description → Prop
  | .value (.text text) | .literal text => text = ""
  | .value _ => True
  | .named name => (defs.find? name).bind (·.grammar) = none
  | .char text => text.length ≠ 1
  | .sequence parts => parts.length < minSequenceLength ∨ maxSequenceLength < parts.length
  | .oneOf parts => parts.length < 2
  | .optional parts _ | .many parts | .many1 parts =>
    parts = [] ∨ maxSequenceLength < parts.length
  | .product p => p.IsFlawed
  | .variant v => v.product.IsFlawed
  | .sum variants => variants = []
  | .leaf _ | .satisfy _ _ | .map _ _ | .edge _ _ | .probed _ _ | .retagged _ _ | .custom _ => False

/-! ### Checks that pass -/

section Checks

variable {α β : Type} {result : Except Fault α}

/-- A changed result is a value just when the result is one. -/
theorem exists_ok_map {f : α → β} : (∃ b, result.map f = .ok b) ↔ ∃ a, result = .ok a := by
  cases result <;> simp [Except.map]

/-- What is guarded is a value just when the guard holds and it is one behind it. -/
theorem exists_ok_ite {condition : Prop} [Decidable condition] {e : Fault} :
    (∃ a, (if condition then result else .error e) = .ok a) ↔
      condition ∧ ∃ a, result = .ok a := by
  split <;> simp [*]

/-- A literal is a grammar just when there is something to read. -/
theorem literalGrammar_ok_iff {text : String} : (∃ g, literalGrammar text = .ok g) ↔ text ≠ "" := by
  rw [literalGrammar, ne_eq, ← String.isEmpty_iff]
  split <;> simp [*]

/-- A text is a character just when it is one character long. -/
theorem charGrammar_ok_iff {text : String} : (∃ g, charGrammar text = .ok g) ↔ text.length = 1 := by
  rw [charGrammar, exists_ok_ite]
  simp

/-- A name stands for a grammar just when its definition has one. -/
theorem grammarOf_ok_iff {name : String} :
    (∃ g, defs.grammarOf name = .ok g) ↔ (defs.find? name).bind (·.grammar) ≠ none := by
  rw [Definitions.grammarOf]
  cases (defs.find? name).bind (·.grammar) <;> simp

/-- A sequence is built just when there are neither too few nor too many operands, all of which are
grammars. -/
theorem sequenceOf_ok_iff {operands : List Operand} :
    (∃ g, sequenceOf defs operands = .ok g) ↔
      (minSequenceLength ≤ operands.length ∧ operands.length ≤ maxSequenceLength) ∧
        ∃ gs, resolveAll defs operands = .ok gs := by
  rw [sequenceOf, exists_ok_ite, exists_ok_map]

/-- A choice is built just when there are two operands at least, all of which are grammars. -/
theorem oneOfOf_ok_iff {operands : List Operand} :
    (∃ g, oneOfOf defs operands = .ok g) ↔
      2 ≤ operands.length ∧ ∃ gs, resolveAll defs operands = .ok gs := by
  rw [oneOfOf, ← ite_not, exists_ok_ite, exists_ok_map, Nat.not_lt]

/-- An operand or a sequence is built just when there are some and not too many, all of which are
grammars. -/
theorem singleOrSequence_ok_iff {operands : List Operand} :
    (∃ g, singleOrSequence defs operands = .ok g) ↔
      (operands.length ≠ 0 ∧ operands.length ≤ maxSequenceLength) ∧
        ∃ gs, resolveAll defs operands = .ok gs := by
  match operands with
  | [] => simp [singleOrSequence]
  | [operand] =>
    rw [singleOrSequence, resolveAll]
    cases operand.resolve defs <;> simp [resolveAll, maxSequenceLength]
  | first :: second :: operands =>
    change (∃ g, sequenceOf defs (first :: second :: operands) = .ok g) ↔ _
    rw [sequenceOf_ok_iff]
    simp [minSequenceLength]

end Checks

/-! ### Lists of parts -/

/-- Descriptions are evaluated one by one. -/
theorem evaluateAll_eq_mapM (defs : Definitions) (ds : List Description) :
    evaluateAll defs ds = ds.mapM (Description.evaluate defs) :=
  eq_mapM_of_cons (evaluateAll defs) (by rw [evaluateAll])
    (fun _ _ _ h => by rw [evaluateAll, h])
    (fun _ ds _ h => by rw [evaluateAll, h]; cases evaluateAll defs ds <;> rfl) ds

/-- Operands are resolved one by one. -/
theorem resolveAll_eq_mapM (defs : Definitions) (operands : List Operand) :
    resolveAll defs operands = operands.mapM (Operand.resolve defs) :=
  eq_mapM_of_cons (resolveAll defs) rfl (fun _ _ _ h => by rw [resolveAll, h])
    (fun _ operands _ h => by rw [resolveAll, h]; cases resolveAll defs operands <;> rfl) operands

/-- There is an operand of each description. -/
theorem length_of_evaluateAll {ds : List Description} {operands : List Operand}
    (h : evaluateAll defs ds = .ok operands) : operands.length = ds.length :=
  (forall₂_of_mapM (evaluateAll_eq_mapM defs ds ▸ h)).length_eq.symm

/-- Descriptions whose operands are grammars are built. -/
theorem builds_of_operands {ds : List Description} {operands : List Operand} {gs : List Grammar}
    (hevaluate : List.Forall₂ (fun d operand => d.evaluate defs = .ok operand) ds operands)
    (hresolve : List.Forall₂ (fun operand g => operand.resolve defs = .ok g) operands gs) :
    ∀ d ∈ ds, d.Builds defs := by
  induction hevaluate generalizing gs with
  | nil => exact fun _ hd => absurd hd List.not_mem_nil
  | cons hoperand _ ih =>
    cases hresolve with
    | cons hg hlater =>
      rw [List.forall_mem_cons]
      exact ⟨⟨_, (Description.build_eq_ok hoperand).trans hg⟩, ih hlater⟩

/-- Parts are evaluated and then resolved exactly if all of them are built. -/
theorem exists_operands_iff {ds : List Description} :
    (∃ operands, evaluateAll defs ds = .ok operands ∧ ∃ gs, resolveAll defs operands = .ok gs) ↔
      ∀ d ∈ ds, d.Builds defs := by
  constructor
  · rintro ⟨operands, hevaluate, gs, hresolve⟩
    rw [evaluateAll_eq_mapM] at hevaluate
    rw [resolveAll_eq_mapM] at hresolve
    exact builds_of_operands (forall₂_of_mapM hevaluate) (forall₂_of_mapM hresolve)
  · intro h
    obtain ⟨gs, hgs⟩ := exists_buildAll h
    obtain ⟨operands, hevaluate, -, hresolve⟩ := hgs.exists_operands
    exact ⟨operands, hevaluate, gs, hresolve⟩

/-! ### Constructors -/

/-- A constructor gives a grammar, which stands for itself. -/
theorem Description.builds_iff_of_evaluate {α : Type} {d : Description} {result : Except Fault α}
    {whole : α → Grammar} (h : d.evaluate defs = result.map fun a => .grammar (whole a)) :
    d.Builds defs ↔ ∃ a, result = .ok a := by
  rw [Builds, build, h]
  cases result <;> simp [Except.map, Operand.resolve]

/-- A description that is assembled of some parts, with the way in which what they stand for is put
together. -/
inductive Description.Assembles (defs : Definitions) :
    Description → List Description → (List Operand → Except Fault Grammar) → Prop
  | sequence (parts : List Description) :
      Assembles defs (.sequence parts) parts (sequenceOf defs)
  | oneOf (parts : List Description) : Assembles defs (.oneOf parts) parts (oneOfOf defs)
  | optional (parts : List Description) (default : Value) :
      Assembles defs (.optional parts default) parts (singleOrSequence defs)
  | many (parts : List Description) : Assembles defs (.many parts) parts (singleOrSequence defs)
  | many1 (parts : List Description) : Assembles defs (.many1 parts) parts (singleOrSequence defs)
  | map (part : Description) (f : Value → Except Fault Value) :
      Assembles defs (.map part f) [part] (singleOrSequence defs)
  | probed (label : String) (part : Description) :
      Assembles defs (.probed label part) [part] (singleOrSequence defs)
  | retagged (tag : Option String) (part : Description) :
      Assembles defs (.retagged tag part) [part] (singleOrSequence defs)

namespace Description.Assembles

variable {d : Description} {parts : List Description} {next : List Operand → Except Fault Grammar}

/-- The parts are evaluated first. -/
theorem evaluate_eq (h : d.Assembles defs parts next) :
    ∃ whole : Grammar → Grammar, d.evaluate defs =
      ((evaluateAll defs parts).bind next).map fun g => .grammar (whole g) := by
  cases h with
  | sequence | oneOf =>
    refine ⟨id, ?_⟩
    rw [evaluate]
    cases evaluateAll defs parts <;> rfl
  | optional _ default =>
    refine ⟨fun g => .optional g default, ?_⟩
    rw [evaluate]
    cases evaluateAll defs parts <;> rfl
  | many =>
    refine ⟨.many, ?_⟩
    rw [evaluate]
    cases evaluateAll defs parts <;> rfl
  | many1 =>
    refine ⟨.many1, ?_⟩
    rw [evaluate]
    cases evaluateAll defs parts <;> rfl
  | map part f =>
    refine ⟨fun g => .map g f, ?_⟩
    rw [evaluate, evaluateAll, evaluateAll]
    cases part.evaluate defs <;> rfl
  | probed label part =>
    refine ⟨.probed label, ?_⟩
    rw [evaluate, evaluateAll, evaluateAll]
    cases part.evaluate defs <;> rfl
  | retagged tag part =>
    refine ⟨.retagged tag, ?_⟩
    rw [evaluate, evaluateAll, evaluateAll]
    cases part.evaluate defs <;> rfl

/-- If putting parts together depends on their count alone, so does building the whole of parts that
are built. -/
theorem builds_iff (h : d.Assembles defs parts next) (fits : Nat → Prop)
    (hnext : ∀ operands, (∃ g, next operands = .ok g) ↔
      fits operands.length ∧ ∃ gs, resolveAll defs operands = .ok gs) :
    d.Builds defs ↔ fits parts.length ∧ ∀ p ∈ parts, p.Builds defs := by
  obtain ⟨whole, hevaluate⟩ := h.evaluate_eq
  rw [builds_iff_of_evaluate hevaluate, ← exists_operands_iff]
  cases hparts : evaluateAll defs parts with
  | error e => simp [Except.bind]
  | ok operands =>
    simp only [Except.bind, hnext, length_of_evaluateAll hparts, Except.ok.injEq, exists_eq_left']

/-- What is made of one part or a sequence is built just when there are some and not too many parts,
all of which are built. -/
theorem builds_iff_single (h : d.Assembles defs parts (singleOrSequence defs)) :
    d.Builds defs ↔
      (parts.length ≠ 0 ∧ parts.length ≤ maxSequenceLength) ∧ ∀ p ∈ parts, p.Builds defs :=
  h.builds_iff (fun n => n ≠ 0 ∧ n ≤ maxSequenceLength) fun _ => singleOrSequence_ok_iff

end Description.Assembles

/-! ### Steps and variants -/

/-- All items give values together just when each of them does. -/
theorem exists_mapM_iff {σ τ ε : Type} {f : σ → Except ε τ} {items : List σ} :
    (∃ values, items.mapM f = .ok values) ↔ ∀ item ∈ items, ∃ value, f item = .ok value := by
  induction items with
  | nil => simp [pure, Except.pure]
  | cons item items ih =>
    rw [List.forall_mem_cons, ← ih, List.mapM_cons]
    cases f item with
    | error e => simp [bind, Except.bind]
    | ok value =>
      cases items.mapM f <;> simp [bind, Except.bind, pure, Except.pure]

/-- A step whose part is built is evaluated and then finished. -/
theorem StepDescription.exists_done {d : StepDescription Description} (h : d.part.Builds defs) :
    ∃ pending done, evaluateStep defs d = .ok pending ∧ pending.finish defs = .ok done := by
  obtain ⟨g, hg⟩ := h
  rw [Description.build] at hg
  split at hg
  · cases hg
  · next operand hoperand =>
    cases d with
    | capture name part check =>
      refine ⟨.ready ⟨some name, g, check⟩, ⟨some name, g, check⟩, ?_, rfl⟩
      rw [StepDescription.part] at hoperand
      rw [evaluateStep, hoperand]
      exact congrArg (Except.map _) hg
    | discard part check =>
      refine ⟨.ready ⟨none, g, check⟩, ⟨none, g, check⟩, ?_, rfl⟩
      rw [StepDescription.part] at hoperand
      rw [evaluateStep, hoperand]
      exact congrArg (Except.map _) hg
    | bare part =>
      refine ⟨.bare operand, ⟨none, g, none⟩, ?_, ?_⟩
      · rw [StepDescription.part] at hoperand
        rw [evaluateStep, hoperand]
        rfl
      · rw [PendingStep.finish, hg]
        rfl

/-- Steps whose parts are built are evaluated and finished. -/
theorem exists_finishSteps {steps : List (StepDescription Description)}
    (h : ∀ step ∈ steps, step.part.Builds defs) :
    ∃ pending built, evaluateSteps defs steps = .ok pending ∧
      finishSteps defs pending = .ok built := by
  induction steps with
  | nil => exact ⟨[], [], by rw [evaluateSteps], rfl⟩
  | cons step steps ih =>
    rw [List.forall_mem_cons] at h
    obtain ⟨pending, done, hpending, hdone⟩ := StepDescription.exists_done h.1
    obtain ⟨later, built, hlater, hbuilt⟩ := ih h.2
    refine ⟨pending :: later, done :: built, ?_, ?_⟩
    · rw [evaluateSteps, hpending, hlater]
    · rw [finishSteps_eq_mapM] at hbuilt ⊢
      rw [List.mapM_cons, hdone, hbuilt]
      rfl

/-- The parts of steps that are built are built. -/
theorem builds_of_steps {steps : List (StepDescription Description)}
    {built : List (Step (Except Fault) Grammar)}
    (h : List.Forall₂ (StepDescription.Builds defs) steps built) :
    ∀ step ∈ steps, step.part.Builds defs := by
  induction h with
  | nil => exact fun _ hstep => absurd hstep List.not_mem_nil
  | cons hstep _ ih =>
    rw [List.forall_mem_cons]
    exact ⟨⟨_, hstep.2.2⟩, ih⟩

/-- A product is built exactly if it is not flawed itself and the parts of its steps are built. -/
theorem evaluateProduct_ok_iff {d : ProductDescription Description} :
    (∃ p, evaluateProduct defs d = .ok p) ↔
      ¬d.IsFlawed ∧ ∀ step ∈ d.steps, step.part.Builds defs := by
  obtain ⟨builder, steps, skipsBetween, skipsAround⟩ := d
  constructor
  · rintro ⟨p, hp⟩
    obtain ⟨built, -, hbuilt, hnodup⟩ := product_of_evaluate hp
    rw [fieldNames_of_builds hbuilt] at hnodup
    refine ⟨?_, builds_of_steps hbuilt⟩
    rintro (rfl | hduplicate)
    · cases hp
    · exact hduplicate hnodup
  · rintro ⟨hsound, hparts⟩
    obtain ⟨hsome, hnodup⟩ := not_or.mp hsound
    obtain ⟨pending, built, hpending, hbuilt⟩ := exists_finishSteps hparts
    have hevaluated := forall₂_of_mapM (evaluateSteps_eq_mapM defs steps ▸ hpending)
    have hfinished := forall₂_of_mapM (finishSteps_eq_mapM defs pending ▸ hbuilt)
    have hfields := fieldNames_of_builds (builds_of_finishSteps hevaluated hfinished)
    have hempty : ¬pending.isEmpty = true := by
      rw [List.isEmpty_iff_length_eq_zero, ← hevaluated.length_eq, List.length_eq_zero_iff]
      exact hsome
    refine ⟨⟨builder.build, built, skipsBetween, skipsAround⟩, ?_⟩
    simp only [evaluateProduct, hpending, productOf, if_neg hempty, hbuilt, hfields]
    exact if_pos (not_not.mp hnodup)

/-- Variants are evaluated one by one. -/
theorem evaluateVariants_eq_mapM (defs : Definitions)
    (variants : List (VariantDescription Description)) :
    evaluateVariants defs variants = variants.mapM (evaluateVariant defs) :=
  eq_mapM_of_cons (evaluateVariants defs) (by rw [evaluateVariants])
    (fun _ _ _ h => by rw [evaluateVariants, h])
    (fun _ vs _ h => by rw [evaluateVariants, h]; cases evaluateVariants defs vs <;> rfl) variants

/-- A variant is built as a description just when it is evaluated. -/
theorem Description.builds_variant_iff {v : VariantDescription Description} :
    (Description.variant v).Builds defs ↔ ∃ built, evaluateVariant defs v = .ok built :=
  builds_iff_of_evaluate (by rw [Description.evaluate])

/-- A sum is built exactly if there is a variant and all of them are built. -/
theorem Description.builds_sum_iff {variants : List (VariantDescription Description)} :
    (Description.sum variants).Builds defs ↔
      variants ≠ [] ∧ ∀ v ∈ variants, (Description.variant v).Builds defs := by
  simp only [builds_variant_iff, ← exists_mapM_iff, ← evaluateVariants_eq_mapM]
  rw [Builds, build, evaluate]
  cases hvariants : evaluateVariants defs variants with
  | error e => simp
  | ok built =>
    have hlength := (forall₂_of_mapM (evaluateVariants_eq_mapM defs variants ▸ hvariants)).length_eq
    cases built with
    | nil => simp [List.length_eq_zero_iff.mp hlength]
    | cons v vs =>
      have hsome : variants ≠ [] := List.ne_nil_of_length_eq_add_one hlength
      simp [hsome, Operand.resolve]

/-! ### Flaws -/

/-- A description is built exactly if it is not malformed by itself and its parts are built. -/
theorem Description.builds_iff (d : Description) :
    d.Builds defs ↔ ¬d.IsFlawed defs ∧ ∀ p ∈ d.parts, p.Builds defs := by
  cases d with
  | value v =>
    cases v with
    | text text => exact literalGrammar_ok_iff.trans (by simp [IsFlawed, parts])
    | _ => simp [Builds, build, evaluate, Operand.resolve, IsFlawed]
  | named name => exact grammarOf_ok_iff.trans (by simp [IsFlawed, parts])
  | leaf _ | satisfy _ _ | edge _ _ | custom _ =>
    exact iff_of_true ⟨_, rfl⟩ ⟨id, by simp [parts]⟩
  | char text =>
    rw [builds_iff_of_evaluate (by rw [evaluate]), charGrammar_ok_iff]
    simp [IsFlawed, parts]
  | literal text =>
    rw [builds_iff_of_evaluate (by rw [evaluate]), literalGrammar_ok_iff]
    simp [IsFlawed, parts]
  | sequence parts =>
    rw [(Assembles.sequence parts).builds_iff
      (fun n => minSequenceLength ≤ n ∧ n ≤ maxSequenceLength) fun _ => sequenceOf_ok_iff]
    simp [IsFlawed, Description.parts]
  | oneOf parts =>
    rw [(Assembles.oneOf parts).builds_iff (2 ≤ ·) fun _ => oneOfOf_ok_iff]
    simp only [IsFlawed, Description.parts, Nat.not_lt]
  | optional parts default =>
    rw [(Assembles.optional parts default).builds_iff_single]
    simp [IsFlawed, Description.parts]
  | many parts =>
    rw [(Assembles.many parts).builds_iff_single]
    simp [IsFlawed, Description.parts]
  | many1 parts =>
    rw [(Assembles.many1 parts).builds_iff_single]
    simp [IsFlawed, Description.parts]
  | map part f =>
    rw [(Assembles.map part f).builds_iff_single]
    simp [IsFlawed, parts, maxSequenceLength]
  | probed label part =>
    rw [(Assembles.probed label part).builds_iff_single]
    simp [IsFlawed, parts, maxSequenceLength]
  | retagged tag part =>
    rw [(Assembles.retagged tag part).builds_iff_single]
    simp [IsFlawed, parts, maxSequenceLength]
  | product p =>
    rw [builds_iff_of_evaluate (by rw [evaluate]), evaluateProduct_ok_iff]
    simp [IsFlawed, parts]
  | variant v =>
    obtain ⟨name, p⟩ := v
    rw [builds_variant_iff, evaluateVariant, exists_ok_map, evaluateProduct_ok_iff]
    simp [IsFlawed, parts]
  | sum variants =>
    rw [builds_sum_iff]
    simp [IsFlawed, parts]

end TextGrammar
