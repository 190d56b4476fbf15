import TextGrammar.Proofs.Grammar.Contract
import TextGrammar.Proofs.Grammar.Opening
import TextGrammar.Proofs.Parser.Events

/-!
# Refused attempts of grammars

An attempt is refused while reading by a grammar only if one is at an edge that the grammar comes
to. At the cursor of the whole grammar only those edges are attempted with which the grammar opens.
-/

namespace TextGrammar

open Relation

variable {defs : Definitions}

/-- No attempt is refused while a step checks a value. -/
theorem avoids_accepts {step : Step (Except Fault) Grammar} {parser : Parser Value}
    (value : Value) :
    (Parser.accepts ⟨step.field, parser, observedCheck step.check⟩ value).Avoids
      Event.IsRefusal := by
  obtain ⟨field, part, check⟩ := step
  cases check with
  | none => exact Run.avoids_pure _
  | some check => exact Run.avoids_refusal_consult _ _

section Parts

variable {edge : Option String → Target Description → Parser Value}

/-- No attempt is refused in a product if none is in its steps, wherever they may be read. -/
theorem avoids_productParser {p : Product (Except Fault) Grammar} {s : Cursor}
    (hadvances : ∀ step ∈ p.steps,
      (step.parser.parser edge).Advances (step.parser.Nullable defs))
    (h : ∀ before step after, p.steps = before ++ step :: after → ∀ t, s.LeadsTo t →
      (t.pos = s.pos → ∀ earlier ∈ before, earlier.parser.Nullable defs) →
        (step.parser.parser edge t).Avoids Event.IsRefusal) :
    (Parser.product (productParser edge p) s).Avoids Event.IsRefusal := by
  obtain ⟨build, steps, skipsBetween, skipsAround⟩ := p
  rw [productParser, stepParsers_eq_map]
  refine Parser.avoids_product (fun step hstep => advances_step (hadvances step hstep))
    (fun _ _ => avoids_accepts) (fun _ => Run.avoids_refusal_consult _ _) ?_
  exact fun before step after hsteps t ht => h before step after hsteps t ht.1 ht.2

/-- No attempt is refused in a variant if none is in its steps, wherever they may be read. -/
theorem avoids_variantParser {v : Variant (Except Fault) Grammar} {s : Cursor}
    (hadvances : ∀ step ∈ v.product.steps,
      (step.parser.parser edge).Advances (step.parser.Nullable defs))
    (h : ∀ before step after, v.product.steps = before ++ step :: after → ∀ t, s.LeadsTo t →
      (t.pos = s.pos → ∀ earlier ∈ before, earlier.parser.Nullable defs) →
        (step.parser.parser edge t).Avoids Event.IsRefusal) :
    (Parser.variant (variantParser edge v) s).Avoids Event.IsRefusal := by
  obtain ⟨name, p⟩ := v
  exact Parser.avoids_retagged (avoids_productParser hadvances h) (some name)

/-- No attempt is refused in a reading by a grammar if none is at any edge behind the grammar,
wherever the grammar may attempt it. -/
theorem Grammar.parser_avoids
    (hadvances : ∀ label target, (Grammar.edge label target).IsStandard defs →
      (edge label target).Advances ((Grammar.edge label target).Nullable defs))
    {g : Grammar} {s : Cursor} (hg : g.IsStandard defs)
    (hedge : ∀ label target, g.Reaches defs (.edge label target) → ∀ t, s.LeadsTo t →
      (t.pos = s.pos → ReflTransGen (Grammar.Opens defs) g (.edge label target)) →
        (edge label target t).Avoids Event.IsRefusal) :
    (g.parser edge s).Avoids Event.IsRefusal := by
  induction g using Grammar.induction_parts generalizing s with
  | whole g ih =>
    -- a part that is attempted where the grammar begins must be one that opens it
    have hpart : ∀ p ∈ g.parts, ∀ t, s.LeadsTo t → (t.pos = s.pos → g.Opens defs p) →
        (p.parser edge t).Avoids Event.IsRefusal := by
      intro p hp t ht hopens
      apply ih p hp (hg.part hp)
      intro label target hreach u hu hopens'
      apply hedge label target (.part hp hreach) u (ht.trans hu)
      intro hpos
      have hfirst := ht.pos_le
      have hsecond := hu.pos_le
      exact .head (hopens (by omega)) (hopens' (by omega))
    have hparts : ∀ p ∈ g.parts, (p.parser edge).Advances (p.Nullable defs) :=
      fun p hp => Grammar.parser_advances hadvances (hg.part hp)
    cases g with
    | leaf l => exact l.parser_reads.avoids s
    | satisfy test expected =>
      exact Parser.avoids_map (Parser.avoids_satisfy (fun _ => Run.avoids_refusal_consult _ _) s) _
    | sequence parts =>
      rw [Grammar.parser, parsers_eq_map]
      refine Parser.avoids_map (Parser.avoids_sequence hparts ?_) _
      intro before p after hsplit t ht
      exact hpart p (mem_of_split hsplit) t ht.1 fun hpos => .sequence hsplit (ht.2 hpos)
    | oneOf parts =>
      rw [Grammar.parser, parsers_eq_map]
      apply Parser.avoids_choice (fun _ _ => id)
      intro p hp
      exact hpart p hp s (.refl s) fun _ => .oneOf hp
    | optional p default =>
      exact Parser.avoids_optional (hpart p List.mem_cons_self s (.refl s) fun _ => .optional) _
    | many p =>
      refine Parser.avoids_map (Parser.avoids_many (hparts p List.mem_cons_self) ?_) _
      exact fun t ht => hpart p List.mem_cons_self t ht fun _ => .many
    | many1 p =>
      refine Parser.avoids_map (Parser.avoids_many1 (hparts p List.mem_cons_self) ?_) _
      exact fun t ht => hpart p List.mem_cons_self t ht fun _ => .many1
    | map p f =>
      refine Parser.avoids_mapRun (hpart p List.mem_cons_self s (.refl s) fun _ => .map) ?_
      exact fun _ => Run.avoids_refusal_consult _ _
    | product p =>
      refine avoids_productParser (fun step hstep => hparts _ (List.mem_map_of_mem hstep)) ?_
      intro before step after hsplit t ht hempty
      have hstep := mem_of_split hsplit
      exact hpart _ (List.mem_map_of_mem hstep) t ht fun hpos => .product hsplit (hempty hpos)
    | variant v =>
      refine avoids_variantParser (fun step hstep => hparts _ (List.mem_map_of_mem hstep)) ?_
      intro before step after hsplit t ht hempty
      have hstep := mem_of_split hsplit
      exact hpart _ (List.mem_map_of_mem hstep) t ht fun hpos => .variant hsplit (hempty hpos)
    | sum variants =>
      rw [Grammar.parser, variantParsers_eq_map, Parser.sum, List.map_map, List.map_map]
      apply Parser.avoids_choice (fun _ _ => id)
      intro v hv
      have hsteps : ∀ step ∈ v.product.steps, (step.parser.parser edge).Advances _ :=
        fun step hstep => hparts _ (Grammar.mem_parts_sum hv hstep)
      refine avoids_variantParser hsteps ?_
      intro before step after hsplit t ht hempty
      have hstep := Grammar.mem_parts_sum hv (mem_of_split hsplit)
      exact hpart _ hstep t ht fun hpos => .sum hv hsplit (hempty hpos)
    | edge label target => exact hedge label target (.refl _) s (.refl s) fun _ => .refl
    | probed label p =>
      exact Parser.avoids_probed (hpart p List.mem_cons_self s (.refl s) fun _ => .probed) _
    | retagged tag p =>
      exact Parser.avoids_retagged (hpart p List.mem_cons_self s (.refl s) fun _ => .retagged) _
    | custom parser => exact absurd hg (Grammar.not_isStandard_custom parser)

end Parts

/-- No attempt is refused by announcing an edge. -/
theorem avoids_announced (label : Option String) : (announced label).Avoids Event.IsRefusal := by
  cases label with
  | none => exact Run.avoids_pure _
  | some label => exact Run.avoids_emit id

/-- An attempt at an edge that is not refused adds nothing but calls to what happens behind it. -/
theorem avoids_edgeWithin {label : Option String} {target : Target Description} {limit : Nat}
    {s : Cursor} (h : ∀ g, target.resolve defs = .ok g →
      (g.parserWithin defs limit s).Avoids Event.IsRefusal) :
    (edgeWithin defs (limit + 1) label target s).Avoids Event.IsRefusal := by
  refine Parser.avoids_edge ((avoids_announced label).bind fun _ _ => ?_)
  refine (Run.avoids_refusal_consult _ _).bind fun g hresolve => h g ?_
  rwa [Run.consult_answer] at hresolve

end TextGrammar
