import TextGrammar.Grammar.Description

/-!
# Grammars and their definitions

A grammar is a description after it has been checked: every part of it is a grammar, and only
edges are left to be resolved while reading. Grammars refer to each other, also recursively,
by the names of definitions. A definition that extends another one does not take over its
grammar.
-/

namespace TextGrammar

/-- A built grammar. -/
inductive Grammar where
  | leaf (leaf : Leaf)
  | satisfy (test : Char → Except Fault Bool) (expected : String)
  | sequence (parts : List Grammar)
  | oneOf (parts : List Grammar)
  | optional (part : Grammar) (default : Value)
  | many (part : Grammar)
  | many1 (part : Grammar)
  | map (part : Grammar) (f : Value → Except Fault Value)
  | product (p : Product (Except Fault) Grammar)
  | variant (v : Variant (Except Fault) Grammar)
  | sum (variants : List (Variant (Except Fault) Grammar))
  | edge (label : Option String) (target : Target Description)
  | probed (label : String) (part : Grammar)
  | retagged (tag : Option String) (part : Grammar)
  | custom (parser : Cursor → Except Fault (Outcome Value))
  deriving Inhabited

/-- Induction over a grammar and all of its parts. -/
theorem Grammar.induction {motive : Grammar → Prop}
    (leaf : ∀ l, motive (.leaf l))
    (satisfy : ∀ test expected, motive (.satisfy test expected))
    (sequence : ∀ parts, (∀ g ∈ parts, motive g) → motive (.sequence parts))
    (oneOf : ∀ parts, (∀ g ∈ parts, motive g) → motive (.oneOf parts))
    (optional : ∀ g default, motive g → motive (.optional g default))
    (many : ∀ g, motive g → motive (.many g))
    (many1 : ∀ g, motive g → motive (.many1 g))
    (map : ∀ g f, motive g → motive (.map g f))
    (product : ∀ p, (∀ step ∈ p.steps, motive step.parser) → motive (.product p))
    (variant : ∀ v, (∀ step ∈ v.product.steps, motive step.parser) → motive (.variant v))
    (sum : ∀ variants, (∀ v ∈ variants, ∀ step ∈ v.product.steps, motive step.parser) →
      motive (.sum variants))
    (edge : ∀ label target, motive (.edge label target))
    (probed : ∀ label g, motive g → motive (.probed label g))
    (retagged : ∀ tag g, motive g → motive (.retagged tag g))
    (custom : ∀ parser, motive (.custom parser)) (g : Grammar) : motive g :=
  @Grammar.rec motive
    (fun parts => ∀ g ∈ parts, motive g)
    (fun p => ∀ step ∈ p.steps, motive step.parser)
    (fun v => ∀ step ∈ v.product.steps, motive step.parser)
    (fun variants => ∀ v ∈ variants, ∀ step ∈ v.product.steps, motive step.parser)
    (fun steps => ∀ step ∈ steps, motive step.parser)
    (fun step => motive step.parser)
    leaf satisfy (fun _ ih => sequence _ ih) (fun _ ih => oneOf _ ih)
    (fun _ _ ih => optional _ _ ih) (fun _ ih => many _ ih) (fun _ ih => many1 _ ih)
    (fun _ _ ih => map _ _ ih) (fun _ ih => product _ ih) (fun _ ih => variant _ ih)
    (fun _ ih => sum _ ih) edge (fun _ _ ih => probed _ _ ih) (fun _ _ ih => retagged _ _ ih)
    custom
    (by simp) (fun _ _ ih ihs => by simpa using ⟨ih, ihs⟩)
    (fun _ _ _ _ ih => ih)
    (fun _ _ ih => ih)
    (by simp) (fun _ _ ih ihs => by simpa using ⟨ih, ihs⟩)
    (by simp) (fun _ _ ih ihs => by simpa using ⟨ih, ihs⟩)
    (fun _ _ _ ih => ih)
    g

/-! ### Definitions -/

/-- A name and, once there is one, its own grammar. -/
structure Definition where
  name : String
  /-- The name of the definition that this one extends. -/
  base : Option String
  grammar : Option Grammar

/-- The definitions that grammars can refer to. -/
structure Definitions where
  entries : List Definition

namespace Definitions

/-- The definition of a name. -/
def find? (defs : Definitions) (name : String) : Option Definition :=
  defs.entries.find? fun definition => definition.name == name

/-- The grammar of a name, which must be the definition's own one. -/
def grammarOf (defs : Definitions) (name : String) : Except Fault Grammar :=
  match (defs.find? name).bind (·.grammar) with
  | some g => .ok g
  | none => .error (.undefinedGrammar name)

/-- Gives a name its grammar, or takes it away. -/
def define (defs : Definitions) (name : String) (grammar : Option Grammar) : Definitions :=
  ⟨defs.entries.map fun definition =>
    if definition.name = name then { definition with grammar } else definition⟩

end Definitions

end TextGrammar
