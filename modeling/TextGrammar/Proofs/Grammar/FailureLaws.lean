import TextGrammar.Proofs.Grammar.Choice
import TextGrammar.Proofs.Parser.FailureLaws

/-!
# Laws of the failures of grammars

A grammar obeys a law of failures if the ordered choices that it comes to do, whatever their
alternatives are. Choices between grammars and sums of variants are the same for this purpose.
-/

namespace TextGrammar

variable {defs : Definitions} {law : FailureLaw} {g : Grammar} {alternatives : List Grammar}
  {exhausted : Nat → Nat → Event} {edge : Option String → Target Description → Parser Value}

/-- A grammar is an ordered choice between alternatives, and announces it when none matches. -/
inductive Grammar.ChoosesFrom : Grammar → List Grammar → (Nat → Nat → Event) → Prop
  | oneOf (parts : List Grammar) : ChoosesFrom (.oneOf parts) parts .alternativesExhausted
  | sum (variants : List (Variant (Except Fault) Grammar)) :
      ChoosesFrom (.sum variants) (variants.map .variant)
        fun _ pos => .variantsExhausted (variants.map (·.name)) pos

/-- A grammar that chooses is read like the choice between its alternatives. -/
theorem Grammar.ChoosesFrom.parserWithin_eq (h : g.ChoosesFrom alternatives exhausted)
    (limit : Nat) :
    g.parserWithin defs limit =
      Parser.choice exhausted (alternatives.map (·.parserWithin defs limit)) := by
  cases h with
  | oneOf => rw [Grammar.parserWithin_eq, Grammar.parser, ← map_parserWithin, Parser.oneOf]
  | sum variants => rw [Grammar.parserWithin_sum, List.map_map, Function.comp_def]

/-- A product obeys a law of failures if its steps do. -/
theorem obeys_productParser {p : Product (Except Fault) Grammar}
    (h : ∀ step ∈ p.steps, (step.parser.parser edge).Obeys law) :
    (Parser.product (productParser edge p)).Obeys law := by
  obtain ⟨build, steps, skipsBetween, skipsAround⟩ := p
  rw [productParser, stepParsers_eq_map]
  apply Parser.obeys_product
  intro step hstep
  obtain ⟨step, hmem, rfl⟩ := List.mem_map.mp hstep
  exact h step hmem

/-- A variant obeys a law of failures if its steps do. -/
theorem obeys_variantParser {v : Variant (Except Fault) Grammar}
    (h : ∀ step ∈ v.product.steps, (step.parser.parser edge).Obeys law) :
    (Parser.variant (variantParser edge v)).Obeys law := by
  obtain ⟨name, p⟩ := v
  exact Parser.obeys_retagged (obeys_productParser h) (some name)

/-- A grammar obeys a law if the edges and the choices do that it comes to. -/
theorem Grammar.parser_obeys (hg : g.IsStandard defs)
    (hedge : ∀ label target, g.Reaches defs (.edge label target) → (edge label target).Obeys law)
    (hchoice : ∀ h alternatives exhausted, g.Reaches defs h → h.ChoosesFrom alternatives exhausted →
      (∀ p ∈ alternatives, (p.parser edge).Obeys law) → (h.parser edge).Obeys law) :
    (g.parser edge).Obeys law := by
  induction g using Grammar.induction_parts with
  | whole g ih =>
    have hparts : ∀ p ∈ g.parts, (p.parser edge).Obeys law := fun p hp =>
      ih p hp (hg.part hp) (fun label target hreach => hedge label target (.part hp hreach))
        fun h alternatives exhausted hreach => hchoice h alternatives exhausted (.part hp hreach)
    cases g with
    | leaf l => exact l.obeys_parser
    | satisfy test expected => exact Parser.obeys_map (Parser.obeys_satisfy _ _) _
    | sequence parts =>
      rw [Grammar.parser, parsers_eq_map]
      exact Parser.obeys_map (Parser.obeys_sequence (List.forall_mem_map.mpr hparts)) _
    | oneOf parts => exact hchoice _ _ _ (.refl _) (.oneOf parts) hparts
    | optional p default => exact Parser.obeys_optional _ _
    | many p => exact Parser.obeys_map (Parser.obeys_many _) _
    | many1 p => exact Parser.obeys_map (Parser.obeys_many1 (hparts p List.mem_cons_self)) _
    | map p f => exact Parser.obeys_mapRun (hparts p List.mem_cons_self) _
    | product p =>
      exact obeys_productParser fun step hstep => hparts _ (List.mem_map_of_mem hstep)
    | variant v =>
      exact obeys_variantParser fun step hstep => hparts _ (List.mem_map_of_mem hstep)
    | sum variants =>
      refine hchoice _ _ _ (.refl _) (.sum variants) (List.forall_mem_map.mpr fun v hv => ?_)
      exact obeys_variantParser fun step hstep => hparts _ (mem_parts_sum hv hstep)
    | edge label target => exact hedge label target (.refl _)
    | probed label p => exact Parser.obeys_probed (hparts p List.mem_cons_self) label
    | retagged tag p => exact Parser.obeys_retagged (hparts p List.mem_cons_self) tag
    | custom parser => exact absurd hg (Grammar.not_isStandard_custom parser)

/-- Within a limit a grammar obeys a law if the choices do that it comes to, at whatever is left of
the limit there. -/
theorem Grammar.parserWithin_obeys {limit : Nat} (hg : g.IsStandard defs)
    (hchoice : ∀ inner ≤ limit, ∀ h alternatives exhausted, g.Reaches defs h →
      h.ChoosesFrom alternatives exhausted →
      (∀ p ∈ alternatives, (p.parserWithin defs inner).Obeys law) →
      (h.parserWithin defs inner).Obeys law) : (g.parserWithin defs limit).Obeys law := by
  induction limit generalizing g with
  | zero =>
    rw [Grammar.parserWithin_eq]
    refine Grammar.parser_obeys hg (fun _ _ _ => Parser.obeys_refused) ?_
    simpa only [Grammar.parserWithin_eq] using hchoice 0 (Nat.le_refl 0)
  | succ limit ih =>
    rw [Grammar.parserWithin_eq]
    refine Grammar.parser_obeys hg (fun label target hreach => ?_) ?_
    · refine Parser.obeys_edge fun s => .bind fun _ _ => .bind fun g' hresolve => ?_
      rw [Run.consult_answer] at hresolve
      have hreach' : g.Reaches defs g' := hreach.trans (.target hresolve (.refl g'))
      refine ih (hg.of_reaches hreach') (fun inner hinner h alternatives exhausted hlater => ?_) s
      exact hchoice inner (Nat.le_succ_of_le hinner) h alternatives exhausted (hreach'.trans hlater)
    · simpa only [Grammar.parserWithin_eq] using hchoice (limit + 1) (Nat.le_refl _)

end TextGrammar
