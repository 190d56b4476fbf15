import TextGrammar.Grammar.Construction
import TextGrammar.Key
import TextGrammar.Parser.Combinators
import TextGrammar.Parser.Outermost

/-!
# Reading by a grammar

The parser of a grammar, part by part. Edges are resolved on each attempt and may lead back
to the grammar itself; attempts at edges inside more than a given number of others are
refused.
-/

namespace TextGrammar

/-- Calls of a step's check can be observed. -/
def observedCheck (check : Option (Value → Except Fault Bool)) : Option (Value → Run Bool) :=
  check.map fun test value => Run.consult (.check value) (test value)

/-- Calls of a product's builder can be observed. -/
def observedBuild (build : List (String × Value) → Except Fault Value)
    (fields : List (String × Value)) : Run Value :=
  Run.consult (.build fields) (build fields)

mutual

/-- The parser of a grammar, given the parsers of its edges. -/
def Grammar.parser (edge : Option String → Target Description → Parser Value) :
    Grammar → Parser Value
  | .leaf l => l.parser
  | .satisfy test expected =>
    Parser.map .ofChar (Parser.satisfy (fun c => Run.consult (.test c) (test c)) expected)
  | .sequence parts => Parser.map .tuple (Parser.sequence (parsers edge parts))
  | .oneOf parts => Parser.oneOf (parsers edge parts)
  | .optional part default => Parser.optional (part.parser edge) default
  | .many part => Parser.map .list (Parser.many (part.parser edge))
  | .many1 part => Parser.map .list (Parser.many1 (part.parser edge))
  | .map part f =>
    Parser.mapRun (part.parser edge) fun value => Run.consult (.map value) (f value)
  | .product p => Parser.product (productParser edge p)
  | .variant v => Parser.variant (variantParser edge v)
  | .sum variants => Parser.sum (variantParsers edge variants)
  | .edge label target => edge label target
  | .probed label part => Parser.probed label (part.parser edge)
  | .retagged tag part => Parser.retagged tag (part.parser edge)
  | .custom parser => fun s => Run.consult (.custom s.pos) (parser s)

/-- The parsers of some grammars. -/
def parsers (edge : Option String → Target Description → Parser Value) :
    List Grammar → List (Parser Value)
  | [] => []
  | g :: gs => g.parser edge :: parsers edge gs

/-- The parsers of some steps. -/
def stepParsers (edge : Option String → Target Description → Parser Value) :
    List (Step (Except Fault) Grammar) → List (Step Run (Parser Value))
  | [] => []
  | ⟨field, g, check⟩ :: steps =>
    ⟨field, g.parser edge, observedCheck check⟩ :: stepParsers edge steps

/-- The parsers of a product's steps. -/
def productParser (edge : Option String → Target Description → Parser Value) :
    Product (Except Fault) Grammar → Product Run (Parser Value)
  | ⟨build, steps, skipsBetween, skipsAround⟩ =>
    ⟨observedBuild build, stepParsers edge steps, skipsBetween, skipsAround⟩

/-- The parsers of a variant's steps. -/
def variantParser (edge : Option String → Target Description → Parser Value) :
    Variant (Except Fault) Grammar → Variant Run (Parser Value)
  | ⟨name, p⟩ => ⟨name, productParser edge p⟩

/-- The parsers of the steps of some variants. -/
def variantParsers (edge : Option String → Target Description → Parser Value) :
    List (Variant (Except Fault) Grammar) → List (Variant Run (Parser Value))
  | [] => []
  | v :: vs => variantParser edge v :: variantParsers edge vs

end

/-- The label of an edge is announced when the edge is resolved. -/
def announced : Option String → Run Unit
  | none => .pure ()
  | some label => .emit (.targeted label)

/-- The parser of a grammar when at most the given number of attempts at edges may be active. -/
def Grammar.parserWithin (defs : Definitions) : Nat → Grammar → Parser Value
  | 0 => Grammar.parser fun _ _ => Parser.refused
  | limit + 1 => Grammar.parser fun label target => Parser.edge fun s =>
    (announced label).bind fun _ =>
      (Run.consult .target (target.resolve defs)).bind fun g => g.parserWithin defs limit s

/-- The cursor at which a reading by an operand starts. The operand is resolved first, so its fault
comes before that of a key that is no text. -/
def Operand.start (defs : Definitions) (operand : Operand) (key : Key) : Except Fault Cursor :=
  (operand.resolve defs).bind fun _ => key.toCursor

/-- Reads a value by what an operand stands for. -/
def read (defs : Definitions) (limit : Nat) (operand : Operand) (s : Cursor) :
    Run (Outcome Value) :=
  (Run.ofExcept (operand.resolve defs)).bind fun g => g.parserWithin defs limit s

/-- Reads a value, or the whole text, by what an operand stands for. -/
def readOrReport (defs : Definitions) (limit : Nat) (operand : Operand) (complete : Bool)
    (s : Cursor) : Run (Except Report Value) :=
  (Run.ofExcept (operand.resolve defs)).bind fun g =>
    (g.parserWithin defs limit).orReport complete s

/-- Reads values one by one by what an operand stands for. -/
def iterate (defs : Definitions) (limit : Nat) (operand : Operand) (s : Cursor) :
    Iteration Value :=
  .pending ((operand.resolve defs).map fun g => (g.parserWithin defs limit, s))

/-- The parsers of a list of grammars are theirs one by one. -/
theorem parsers_eq_map (edge : Option String → Target Description → Parser Value)
    (gs : List Grammar) : parsers edge gs = gs.map (Grammar.parser edge) := by
  induction gs with
  | nil => rfl
  | cons g gs ih => rw [parsers, ih, List.map_cons]

/-- The parsers of a list of steps are theirs one by one. -/
theorem stepParsers_eq_map (edge : Option String → Target Description → Parser Value)
    (steps : List (Step (Except Fault) Grammar)) :
    stepParsers edge steps =
      steps.map fun step => ⟨step.field, step.parser.parser edge, observedCheck step.check⟩ := by
  induction steps with
  | nil => rfl
  | cons step steps ih => cases step; rw [stepParsers, ih, List.map_cons]

/-- The parsers of a list of variants are theirs one by one. -/
theorem variantParsers_eq_map (edge : Option String → Target Description → Parser Value)
    (variants : List (Variant (Except Fault) Grammar)) :
    variantParsers edge variants = variants.map (variantParser edge) := by
  induction variants with
  | nil => rfl
  | cons v vs ih => rw [variantParsers, ih, List.map_cons]

end TextGrammar
