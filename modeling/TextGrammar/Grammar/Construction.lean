import TextGrammar.Grammar.Basic

/-!
# Building grammars

A description is built from the inside out: the parts of a grammar from left to right,
then the checks of the grammar itself, then its parts are resolved to grammars. The first
fault on this way is the fault of the whole description.
-/

namespace TextGrammar

/-- What a description evaluates to: something that can stand in the place of a grammar. -/
inductive Operand where
  | value (v : Value)
  | named (name : String)
  | grammar (g : Grammar)

/-- The literal of a text, which must not be empty. -/
def literalGrammar (text : String) : Except Fault Grammar :=
  if text.isEmpty then .error .emptyLiteral else .ok (.leaf (.literal text))

/-- The literal of a text that must be a single character. -/
def charGrammar (text : String) : Except Fault Grammar :=
  if text.length = 1 then .ok (.leaf (.literal text)) else .error .notOneCharacter

/-- The grammar that an operand stands for. -/
def Operand.resolve (defs : Definitions) : Operand → Except Fault Grammar
  | .value (.text text) => literalGrammar text
  | .value v => .error (.notAGrammar v)
  | .named name => defs.grammarOf name
  | .grammar g => .ok g

/-- The grammars that operands stand for, up to the first one that stands for none. -/
def resolveAll (defs : Definitions) : List Operand → Except Fault (List Grammar)
  | [] => .ok []
  | operand :: operands =>
    match operand.resolve defs with
    | .error e => .error e
    | .ok g =>
      match resolveAll defs operands with
      | .error e => .error e
      | .ok gs => .ok (g :: gs)

/-- The sequence of some operands. -/
def sequenceOf (defs : Definitions) (operands : List Operand) : Except Fault Grammar :=
  if minSequenceLength ≤ operands.length ∧ operands.length ≤ maxSequenceLength then
    (resolveAll defs operands).map .sequence
  else .error .sequenceLength

/-- The ordered choice of some operands. -/
def oneOfOf (defs : Definitions) (operands : List Operand) : Except Fault Grammar :=
  if operands.length < 2 then .error .fewAlternatives
  else (resolveAll defs operands).map .oneOf

/-- One operand by itself, several ones in sequence. -/
def singleOrSequence (defs : Definitions) : List Operand → Except Fault Grammar
  | [] => .error .noParser
  | [operand] => operand.resolve defs
  | operands => sequenceOf defs operands

/-- A step whose part has been evaluated; the part of a bare one is still to be resolved. -/
inductive PendingStep where
  | ready (step : Step (Except Fault) Grammar)
  | bare (operand : Operand)

/-- Resolves the bare steps in their order. -/
def finishSteps (defs : Definitions) :
    List PendingStep → Except Fault (List (Step (Except Fault) Grammar))
  | [] => .ok []
  | .ready step :: steps =>
    match finishSteps defs steps with
    | .error e => .error e
    | .ok done => .ok (step :: done)
  | .bare operand :: steps =>
    match operand.resolve defs with
    | .error e => .error e
    | .ok g =>
      match finishSteps defs steps with
      | .error e => .error e
      | .ok done => .ok (⟨none, g, none⟩ :: done)

/-- The product of some steps. There must be a step, and no name may be captured twice. -/
def productOf (defs : Definitions) (builder : Builder) (steps : List PendingStep)
    (skipsBetween skipsAround : Bool) : Except Fault (Product (Except Fault) Grammar) :=
  if steps.isEmpty then .error .noStep
  else
    match finishSteps defs steps with
    | .error e => .error e
    | .ok done =>
      if (fieldNames done).Nodup then .ok ⟨builder.build, done, skipsBetween, skipsAround⟩
      else .error (.duplicateFields (fieldNames done))

mutual

/-- What a description stands for. -/
def Description.evaluate (defs : Definitions) : Description → Except Fault Operand
  | .value v => .ok (.value v)
  | .named name => .ok (.named name)
  | .leaf l => .ok (.grammar (.leaf l))
  | .char text => (charGrammar text).map .grammar
  | .literal text => (literalGrammar text).map .grammar
  | .satisfy test expected => .ok (.grammar (.satisfy test expected))
  | .sequence parts =>
    match evaluateAll defs parts with
    | .error e => .error e
    | .ok operands => (sequenceOf defs operands).map .grammar
  | .oneOf parts =>
    match evaluateAll defs parts with
    | .error e => .error e
    | .ok operands => (oneOfOf defs operands).map .grammar
  | .optional parts default =>
    match evaluateAll defs parts with
    | .error e => .error e
    | .ok operands => (singleOrSequence defs operands).map fun g => .grammar (.optional g default)
  | .many parts =>
    match evaluateAll defs parts with
    | .error e => .error e
    | .ok operands => (singleOrSequence defs operands).map fun g => .grammar (.many g)
  | .many1 parts =>
    match evaluateAll defs parts with
    | .error e => .error e
    | .ok operands => (singleOrSequence defs operands).map fun g => .grammar (.many1 g)
  | .map part f =>
    match part.evaluate defs with
    | .error e => .error e
    | .ok operand => (operand.resolve defs).map fun g => .grammar (.map g f)
  | .product p => (evaluateProduct defs p).map fun p => .grammar (.product p)
  | .variant v => (evaluateVariant defs v).map fun v => .grammar (.variant v)
  | .sum variants =>
    match evaluateVariants defs variants with
    | .error e => .error e
    | .ok [] => .error .noVariant
    | .ok built => .ok (.grammar (.sum built))
  | .edge label target => .ok (.grammar (.edge label target))
  | .probed label part =>
    match part.evaluate defs with
    | .error e => .error e
    | .ok operand => (operand.resolve defs).map fun g => .grammar (.probed label g)
  | .retagged tag part =>
    match part.evaluate defs with
    | .error e => .error e
    | .ok operand => (operand.resolve defs).map fun g => .grammar (.retagged tag g)
  | .custom parser => .ok (.grammar (.custom parser))

/-- What some descriptions stand for, up to the first faulty one. -/
def evaluateAll (defs : Definitions) : List Description → Except Fault (List Operand)
  | [] => .ok []
  | part :: parts =>
    match part.evaluate defs with
    | .error e => .error e
    | .ok operand =>
      match evaluateAll defs parts with
      | .error e => .error e
      | .ok operands => .ok (operand :: operands)

/-- The step that a described one stands for. Captured and skipped parts are resolved at once. -/
def evaluateStep (defs : Definitions) : StepDescription Description → Except Fault PendingStep
  | .capture name part check =>
    match part.evaluate defs with
    | .error e => .error e
    | .ok operand => (operand.resolve defs).map fun g => .ready ⟨some name, g, check⟩
  | .discard part check =>
    match part.evaluate defs with
    | .error e => .error e
    | .ok operand => (operand.resolve defs).map fun g => .ready ⟨none, g, check⟩
  | .bare part => (part.evaluate defs).map .bare

/-- The steps that described ones stand for, up to the first faulty one. -/
def evaluateSteps (defs : Definitions) :
    List (StepDescription Description) → Except Fault (List PendingStep)
  | [] => .ok []
  | step :: steps =>
    match evaluateStep defs step with
    | .error e => .error e
    | .ok done =>
      match evaluateSteps defs steps with
      | .error e => .error e
      | .ok others => .ok (done :: others)

/-- The product that a described one stands for. -/
def evaluateProduct (defs : Definitions) :
    ProductDescription Description → Except Fault (Product (Except Fault) Grammar)
  | ⟨builder, steps, skipsBetween, skipsAround⟩ =>
    match evaluateSteps defs steps with
    | .error e => .error e
    | .ok pending => productOf defs builder pending skipsBetween skipsAround

/-- The variant that a described one stands for. -/
def evaluateVariant (defs : Definitions) :
    VariantDescription Description → Except Fault (Variant (Except Fault) Grammar)
  | ⟨name, p⟩ => (evaluateProduct defs p).map fun built => ⟨name.getD p.builder.name, built⟩

/-- The variants that described ones stand for, up to the first faulty one. -/
def evaluateVariants (defs : Definitions) :
    List (VariantDescription Description) →
      Except Fault (List (Variant (Except Fault) Grammar))
  | [] => .ok []
  | v :: vs =>
    match evaluateVariant defs v with
    | .error e => .error e
    | .ok built =>
      match evaluateVariants defs vs with
      | .error e => .error e
      | .ok others => .ok (built :: others)

end

/-- The grammar that a description stands for. -/
def Description.build (defs : Definitions) (d : Description) : Except Fault Grammar :=
  match d.evaluate defs with
  | .error e => .error e
  | .ok operand => operand.resolve defs

/-- The grammar behind an edge. A name that is not defined at all stands for no grammar. -/
def Target.resolve (defs : Definitions) : Target Description → Except Fault Grammar
  | .named name =>
    if (defs.find? name).isSome then defs.grammarOf name else .error (.notAGrammar .null)
  | .described d => d.build defs
  | .raising e => .error e

/-- What a declaration gives to a name. -/
inductive Declaration.Body where
  | undefined
  | grammar (d : Description)
  /-- Steps from whose fields an object of the name is built. -/
  | object (steps : List (StepDescription Description)) (skipsBetween skipsAround : Bool)

/-- A name that is to be defined. -/
structure Declaration where
  name : String
  base : Option String
  body : Declaration.Body

/-- Builds the objects of a name. -/
def objectBuilder (name : String) : Builder := ⟨name, fun fields => .ok (.object name fields)⟩

/-- What a definition gets when it is given an operand. The operand is taken as it is, so one that
is no grammar only comes to light with the first attempt at it; nothing at all leaves the definition
without a grammar. -/
def Operand.given : Operand → Option Grammar
  | .value .null => none
  | .value v => some (.custom fun _ => .error (.notAParser v.typeName))
  | .named name => some (.custom fun _ => .error (.namedFieldsOnly name))
  | .grammar g => some g

/-- Carries out one declaration. -/
def Definitions.declare (defs : Definitions) (d : Declaration) : Except Fault Definitions :=
  match d.body with
  | .undefined => .ok defs
  | .grammar description =>
    (description.evaluate defs).map fun operand => defs.define d.name operand.given
  | .object steps skipsBetween skipsAround =>
    (evaluateProduct defs ⟨objectBuilder d.name, steps, skipsBetween, skipsAround⟩).map fun p =>
      defs.define d.name (some (.product p))

/-- The definitions of some declarations. All names are known from the start; the grammars are
built in order, and each one can use those before it. -/
def Definitions.ofDeclarations (declarations : List Declaration) : Except Fault Definitions :=
  declarations.foldlM Definitions.declare ⟨declarations.map fun d => ⟨d.name, d.base, none⟩⟩

end TextGrammar
