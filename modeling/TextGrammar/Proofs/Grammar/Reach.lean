import TextGrammar.Grammar.Reading

/-!
# Reachable grammars

A reading by a grammar can come to the parts of the grammar, to theirs, and to what edges
lead to, but to no other grammar. Conditions on a grammar and everything behind it are
conditions on the grammars that it reaches.
-/

namespace TextGrammar

/-- The grammars that a grammar is made of. What an edge leads to is no part of it. -/
def Grammar.parts : Grammar → List Grammar
  | .leaf _ | .satisfy _ _ | .edge _ _ | .custom _ => []
  | .sequence parts | .oneOf parts => parts
  | .optional part _ | .many part | .many1 part | .map part _ | .probed _ part
  | .retagged _ part => [part]
  | .product p => p.steps.map (·.parser)
  | .variant v => v.product.steps.map (·.parser)
  | .sum variants => variants.flatMap fun v => v.product.steps.map (·.parser)

/-- What stands between two pieces of a list is in the list. -/
theorem mem_of_split {α : Type} {xs before after : List α} {x : α}
    (hsplit : xs = before ++ x :: after) : x ∈ xs :=
  hsplit ▸ List.mem_append_right _ List.mem_cons_self

/-- Induction over the parts of a grammar, whatever its kind. -/
theorem Grammar.induction_parts {motive : Grammar → Prop}
    (whole : ∀ g, (∀ p ∈ Grammar.parts g, motive p) → motive g) (g : Grammar) : motive g := by
  induction g using Grammar.induction with
  | leaf _ | satisfy _ _ | edge _ _ | custom _ => exact whole _ (by simp [parts])
  | sequence _ ih | oneOf _ ih => exact whole _ ih
  | optional _ _ ih | many _ ih | many1 _ ih | map _ _ ih | probed _ _ ih | retagged _ _ ih =>
    exact whole _ (by simpa [parts] using ih)
  | product _ ih | variant _ ih =>
    apply whole _
    intro p hp
    obtain ⟨step, hstep, rfl⟩ := List.mem_map.mp hp
    exact ih step hstep
  | sum _ ih =>
    apply whole _
    intro p hp
    obtain ⟨v, hv, hpart⟩ := List.mem_flatMap.mp hp
    obtain ⟨step, hstep, rfl⟩ := List.mem_map.mp hpart
    exact ih v hv step hstep

/-- A grammar reaches itself and what its parts and the target of an edge reach. -/
inductive Grammar.Reaches (defs : Definitions) : Grammar → Grammar → Prop
  | refl (g : Grammar) : Reaches defs g g
  | part {g p h : Grammar} (hp : p ∈ g.parts) (hreach : Reaches defs p h) : Reaches defs g h
  | target {label : Option String} {target : Target Description} {g h : Grammar}
      (hresolve : target.resolve defs = .ok g) (hreach : Reaches defs g h) :
      Reaches defs (.edge label target) h

/-- No user's own parser can be reached, so everything is read by the parsers of the library. -/
def Grammar.IsStandard (defs : Definitions) (g : Grammar) : Prop :=
  ∀ parser, ¬g.Reaches defs (.custom parser)

namespace Grammar

variable {defs : Definitions} {g h : Grammar}

/-- What can be reached from something that can be reached can be reached. -/
theorem Reaches.trans {k : Grammar} (hgh : g.Reaches defs h) (hhk : h.Reaches defs k) :
    g.Reaches defs k := by
  induction hgh with
  | refl => exact hhk
  | part hp _ ih => exact .part hp (ih hhk)
  | target hresolve _ ih => exact .target hresolve (ih hhk)

/-- A class of grammars that is closed under parts and targets holds all that one of it reaches. -/
theorem Reaches.of_closed {S : Grammar → Prop} (hpart : ∀ g, S g → ∀ p ∈ g.parts, S p)
    (htarget : ∀ label target g, S (.edge label target) → target.resolve defs = .ok g → S g)
    (hreach : g.Reaches defs h) (hg : S g) : S h := by
  induction hreach with
  | refl => exact hg
  | part hp _ ih => exact ih (hpart _ hg _ hp)
  | target hresolve _ ih => exact ih (htarget _ _ _ hg hresolve)

/-- What a standard grammar reaches is standard. -/
theorem IsStandard.of_reaches (hg : g.IsStandard defs) (hreach : g.Reaches defs h) :
    h.IsStandard defs :=
  fun parser hcustom => hg parser (hreach.trans hcustom)

/-- The parts of a standard grammar are standard. -/
theorem IsStandard.part (hg : g.IsStandard defs) {p : Grammar} (hp : p ∈ g.parts) :
    p.IsStandard defs :=
  hg.of_reaches (.part hp (.refl p))

/-- What an edge of a standard grammar leads to is standard. -/
theorem IsStandard.target {label : Option String} {target : Target Description}
    (hg : (Grammar.edge label target).IsStandard defs) (hresolve : target.resolve defs = .ok g) :
    g.IsStandard defs :=
  hg.of_reaches (.target hresolve (.refl g))

/-- A parser of a user's own is not standard. -/
theorem not_isStandard_custom (parser : Cursor → Except Fault (Outcome Value)) :
    ¬(Grammar.custom parser).IsStandard defs :=
  fun hg => hg parser (.refl _)

/-- The steps of a variant of a sum are parts of the sum. -/
theorem mem_parts_sum {variants : List (Variant (Except Fault) Grammar)}
    {v : Variant (Except Fault) Grammar} {step : Step (Except Fault) Grammar}
    (hv : v ∈ variants) (hstep : step ∈ v.product.steps) :
    step.parser ∈ (Grammar.sum variants).parts :=
  List.mem_flatMap.mpr ⟨v, hv, List.mem_map_of_mem hstep⟩

end Grammar

end TextGrammar
