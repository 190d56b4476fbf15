import Mathlib.Logic.Relation
import TextGrammar.Proofs.Grammar.Reach
import TextGrammar.Proofs.Leaf.Table

/-!
# Nullable grammars and opening attempts

The usual analysis of which grammars may match nothing. It looks at the shape of a grammar
alone, and at an edge it looks through to what the edge leads to. That a grammar which is not
nullable really reads a character is part of the contract of its parser.

A grammar opens with another one if reading by it may attempt the other one before a character
has been read: all parts that stand before are nullable. A grammar is left recursive if an edge
behind it opens, after some steps, with itself again.
-/

namespace TextGrammar

variable {defs : Definitions}

/-- A grammar that may match nothing, as far as its shape tells. -/
inductive Grammar.Nullable (defs : Definitions) : Grammar → Prop
  | leaf {l : Leaf} (h : l.isNullable = true) : Nullable defs (.leaf l)
  | sequence {parts : List Grammar} (h : ∀ g ∈ parts, Nullable defs g) :
      Nullable defs (.sequence parts)
  | oneOf {parts : List Grammar} {g : Grammar} (hg : g ∈ parts) (h : Nullable defs g) :
      Nullable defs (.oneOf parts)
  | optional {g : Grammar} {default : Value} : Nullable defs (.optional g default)
  | many {g : Grammar} : Nullable defs (.many g)
  | many1 {g : Grammar} (h : Nullable defs g) : Nullable defs (.many1 g)
  | map {g : Grammar} {f : Value → Except Fault Value} (h : Nullable defs g) :
      Nullable defs (.map g f)
  | product {p : Product (Except Fault) Grammar} (h : ∀ step ∈ p.steps, Nullable defs step.parser) :
      Nullable defs (.product p)
  | variant {v : Variant (Except Fault) Grammar}
      (h : ∀ step ∈ v.product.steps, Nullable defs step.parser) : Nullable defs (.variant v)
  | sum {variants : List (Variant (Except Fault) Grammar)} {v : Variant (Except Fault) Grammar}
      (hv : v ∈ variants) (h : ∀ step ∈ v.product.steps, Nullable defs step.parser) :
      Nullable defs (.sum variants)
  | edge {label : Option String} {target : Target Description} {g : Grammar}
      (hresolve : target.resolve defs = .ok g) (h : Nullable defs g) :
      Nullable defs (.edge label target)
  | probed {label : String} {g : Grammar} (h : Nullable defs g) : Nullable defs (.probed label g)
  | retagged {tag : Option String} {g : Grammar} (h : Nullable defs g) :
      Nullable defs (.retagged tag g)

/-- A grammar opens with a part, or with the target of an edge, if everything before it is
nullable. -/
inductive Grammar.Opens (defs : Definitions) : Grammar → Grammar → Prop
  | sequence {parts before after : List Grammar} {g : Grammar}
      (hparts : parts = before ++ g :: after) (h : ∀ p ∈ before, p.Nullable defs) :
      Opens defs (.sequence parts) g
  | oneOf {parts : List Grammar} {g : Grammar} (hg : g ∈ parts) : Opens defs (.oneOf parts) g
  | optional {g : Grammar} {default : Value} : Opens defs (.optional g default) g
  | many {g : Grammar} : Opens defs (.many g) g
  | many1 {g : Grammar} : Opens defs (.many1 g) g
  | map {g : Grammar} {f : Value → Except Fault Value} : Opens defs (.map g f) g
  | product {p : Product (Except Fault) Grammar} {before after : List (Step (Except Fault) Grammar)}
      {step : Step (Except Fault) Grammar} (hsteps : p.steps = before ++ step :: after)
      (h : ∀ earlier ∈ before, earlier.parser.Nullable defs) : Opens defs (.product p) step.parser
  | variant {v : Variant (Except Fault) Grammar} {before after : List (Step (Except Fault) Grammar)}
      {step : Step (Except Fault) Grammar} (hsteps : v.product.steps = before ++ step :: after)
      (h : ∀ earlier ∈ before, earlier.parser.Nullable defs) : Opens defs (.variant v) step.parser
  | sum {variants : List (Variant (Except Fault) Grammar)} {v : Variant (Except Fault) Grammar}
      {before after : List (Step (Except Fault) Grammar)} {step : Step (Except Fault) Grammar}
      (hv : v ∈ variants) (hsteps : v.product.steps = before ++ step :: after)
      (h : ∀ earlier ∈ before, earlier.parser.Nullable defs) :
      Opens defs (.sum variants) step.parser
  | edge {label : Option String} {target : Target Description} {g : Grammar}
      (hresolve : target.resolve defs = .ok g) : Opens defs (.edge label target) g
  | probed {label : String} {g : Grammar} : Opens defs (.probed label g) g
  | retagged {tag : Option String} {g : Grammar} : Opens defs (.retagged tag g) g

/-- Some edge behind a grammar can come back to itself before a character has been read. -/
def Grammar.IsLeftRecursive (defs : Definitions) (g : Grammar) : Prop :=
  ∃ label target, g.Reaches defs (.edge label target) ∧
    Relation.TransGen (Grammar.Opens defs) (.edge label target) (.edge label target)

/-- Left recursion behind a grammar is left recursion of the grammar. -/
theorem Grammar.IsLeftRecursive.of_reaches {g h : Grammar} (hh : h.IsLeftRecursive defs)
    (hreach : g.Reaches defs h) : g.IsLeftRecursive defs := by
  obtain ⟨label, target, hedge, hback⟩ := hh
  exact ⟨label, target, hreach.trans hedge, hback⟩

end TextGrammar
