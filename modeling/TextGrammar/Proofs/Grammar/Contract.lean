import TextGrammar.Proofs.Grammar.Opening

/-!
# The contract of grammars

Every grammar that is made of the library's own parts keeps the contract of parsers at
every nesting limit, also where it leads back to itself. So its matches are pieces of the
text that begin where they should, its failures lie in the text, and nothing but a user's
function ever raises a fault.
-/

namespace TextGrammar

variable {defs : Definitions}

/-- The parser of what an edge leads to, when at most the given number of attempts at edges may be
active inside. -/
def followed (defs : Definitions) (limit : Nat) (label : Option String)
    (target : Target Description) : Parser Value := fun s =>
  (announced label).bind fun _ =>
    (Run.consult .target (target.resolve defs)).bind fun g => g.parserWithin defs limit s

/-- The parsers of edges when at most the given number of attempts at edges may be active. -/
def edgeWithin (defs : Definitions) : Nat → Option String → Target Description → Parser Value
  | 0, _, _ => Parser.refused
  | limit + 1, label, target => Parser.edge (followed defs limit label target)

/-- Within a limit a grammar is read as usual, but for its edges. -/
theorem Grammar.parserWithin_eq (limit : Nat) (g : Grammar) :
    g.parserWithin defs limit = g.parser (edgeWithin defs limit) := by
  cases limit <;> rfl

/-- Announcing an edge raises no fault. -/
theorem announced_yields (label : Option String) : (announced label).Yields fun _ => True := by
  cases label with
  | none => exact Run.yields_pure trivial
  | some label => exact Run.yields_emit trivial

/-- What an edge leads to keeps the contract if the grammar that it is resolved to does. -/
theorem followed_advances {label : Option String} {target : Target Description} {limit : Nat}
    (h : ∀ g, target.resolve defs = .ok g →
      (g.parserWithin defs limit).Advances (g.Nullable defs)) :
    (followed defs limit label target).Advances ((Grammar.edge label target).Nullable defs) := by
  intro s
  apply (announced_yields label).bind
  intro _ _
  apply (Run.yields_consult fun _ hresolve => hresolve).bind
  intro g hresolve
  exact (h g hresolve).mono (.edge hresolve) s

/-- A step of a grammar keeps the contract if its part does. -/
theorem advances_step {field : Option String} {parser : Parser Value}
    {check : Option (Value → Except Fault Bool)} {empty : Prop} (h : parser.Advances empty) :
    (⟨field, parser, observedCheck check⟩ : Step Run (Parser Value)).Advances empty := by
  constructor
  · exact h
  · intro value
    cases check with
    | none => exact Run.yields_pure trivial
    | some check => exact Run.yields_consult fun _ _ => trivial

section Parts

variable {edge : Option String → Target Description → Parser Value}

/-- A product advances if its steps do, and may be empty only if all of them may be. -/
theorem advances_productParser {p : Product (Except Fault) Grammar}
    (h : ∀ step ∈ p.steps, (step.parser.parser edge).Advances (step.parser.Nullable defs)) :
    (Parser.product (productParser edge p)).Advances
      (∀ step ∈ p.steps, step.parser.Nullable defs) := by
  obtain ⟨build, steps, skipsBetween, skipsAround⟩ := p
  rw [productParser, stepParsers_eq_map]
  exact Parser.advances_product (fun step hstep => advances_step (h step hstep))
    (fun _ => Run.yields_consult fun _ _ => trivial)

/-- A variant advances if its steps do, and may be empty only if all of them may be. -/
theorem advances_variantParser {v : Variant (Except Fault) Grammar}
    (h : ∀ step ∈ v.product.steps, (step.parser.parser edge).Advances (step.parser.Nullable defs)) :
    (Parser.variant (variantParser edge v)).Advances
      (∀ step ∈ v.product.steps, step.parser.Nullable defs) := by
  obtain ⟨name, p⟩ := v
  exact Parser.advances_retagged (advances_productParser h) (some name)

/-- A grammar keeps the contract if the parsers of its edges do. -/
theorem Grammar.parser_advances
    (hedge : ∀ label target, (Grammar.edge label target).IsStandard defs →
      (edge label target).Advances ((Grammar.edge label target).Nullable defs))
    {g : Grammar} (hg : g.IsStandard defs) : (g.parser edge).Advances (g.Nullable defs) := by
  -- each part keeps the contract as far as the part may be empty, and so does the whole
  induction g using Grammar.induction with
  | leaf l => exact l.parser_advances.mono .leaf
  | satisfy test expected =>
    have htest : ∀ c, (Run.consult (.test c) (test c)).Yields fun _ => True :=
      fun c => Run.yields_consult fun _ _ => trivial
    exact (Parser.advances_map (Parser.advances_satisfy htest) _).mono False.elim
  | sequence parts ih =>
    rw [Grammar.parser, parsers_eq_map]
    have hparts := Parser.advances_sequence fun g hmem => ih g hmem (hg.part hmem)
    exact (Parser.advances_map hparts _).mono .sequence
  | oneOf parts ih =>
    rw [Grammar.parser, parsers_eq_map]
    have hparts := Parser.advances_choice .alternativesExhausted fun g hmem =>
      ih g hmem (hg.part hmem)
    exact hparts.mono fun ⟨g, hmem, hempty⟩ => .oneOf hmem hempty
  | optional g default ih =>
    have hpart := ih (hg.part List.mem_cons_self)
    exact (Parser.advances_optional hpart default).mono fun _ => .optional
  | many g ih =>
    have hpart := ih (hg.part List.mem_cons_self)
    exact (Parser.advances_map (Parser.advances_many hpart) _).mono fun _ => .many
  | many1 g ih =>
    have hpart := ih (hg.part List.mem_cons_self)
    exact (Parser.advances_map (Parser.advances_many1 hpart) _).mono .many1
  | map g f ih =>
    have hpart := ih (hg.part List.mem_cons_self)
    exact (Parser.advances_mapRun hpart fun _ => Run.yields_consult fun _ _ => trivial).mono .map
  | product p ih =>
    have hsteps := advances_productParser fun step hstep =>
      ih step hstep (hg.part (List.mem_map_of_mem hstep))
    exact hsteps.mono .product
  | variant v ih =>
    have hsteps := advances_variantParser fun step hstep =>
      ih step hstep (hg.part (List.mem_map_of_mem hstep))
    exact hsteps.mono .variant
  | sum variants ih =>
    rw [Grammar.parser, variantParsers_eq_map, Parser.sum, List.map_map, List.map_map]
    refine (Parser.advances_choice _ fun v hv => ?_).mono fun ⟨v, hv, hempty⟩ => .sum hv hempty
    exact advances_variantParser fun step hstep =>
      ih v hv step hstep (hg.part (Grammar.mem_parts_sum hv hstep))
  | edge label target => exact hedge label target hg
  | probed label g ih =>
    exact (Parser.advances_probed (ih (hg.part List.mem_cons_self)) label).mono .probed
  | retagged tag g ih =>
    exact (Parser.advances_retagged (ih (hg.part List.mem_cons_self)) tag).mono .retagged
  | custom parser => exact absurd hg (Grammar.not_isStandard_custom parser)

end Parts

/-- Every standard grammar keeps the contract at every nesting limit. -/
theorem Grammar.parserWithin_advances {g : Grammar} (hg : g.IsStandard defs) (limit : Nat) :
    (g.parserWithin defs limit).Advances (g.Nullable defs) := by
  induction limit generalizing g with
  | zero =>
    rw [Grammar.parserWithin_eq]
    exact Grammar.parser_advances (fun _ _ _ => Parser.advances_refused _) hg
  | succ limit ih =>
    rw [Grammar.parserWithin_eq]
    refine Grammar.parser_advances (fun label target hedge => Parser.advances_edge ?_) hg
    exact followed_advances fun g' hresolve => ih (hedge.target hresolve)

/-- So does every edge to something standard. -/
theorem edgeWithin_advances {label : Option String} {target : Target Description}
    (hedge : (Grammar.edge label target).IsStandard defs) (limit : Nat) :
    (edgeWithin defs limit label target).Advances ((Grammar.edge label target).Nullable defs) := by
  have hadvances := Grammar.parserWithin_advances hedge limit
  rw [Grammar.parserWithin_eq] at hadvances
  exact hadvances

end TextGrammar
