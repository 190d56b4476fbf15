import TextGrammar.Proofs.Grammar.Reach
import TextGrammar.Proofs.Leaf.Table
import TextGrammar.Proofs.Parser.Relation

/-!
# Related readings

A relation between runs that holds at the edges behind a grammar holds of the readings by the
grammar itself. So a statement about two ways of treating edges is shown at edges alone.
-/

namespace TextGrammar

variable {defs : Definitions} {R : RunRelation}
  {edge edge' : Option String → Target Description → Parser Value}

/-! ### Faults of the user's functions -/

/-- A call by which a product builds its value, checks a value or shows a rejected one raises a
fault. -/
inductive Product.CallRaises (p : Product (Except Fault) Grammar) : Call → Fault → Prop
  | build {fields : List (String × Value)} {e : Fault} (h : p.build fields = .error e) :
      CallRaises p (.build fields) e
  | check {step : Step (Except Fault) Grammar} {check : Value → Except Fault Bool} {value : Value}
      {e : Fault} (hstep : step ∈ p.steps) (hcheck : step.check = some check)
      (h : check value = .error e) : CallRaises p (.check value) e
  | show {step : Step (Except Fault) Grammar} {check : Value → Except Fault Bool} {value : Value}
      (hstep : step ∈ p.steps) (hcheck : step.check = some check)
      (hrejected : check value = .ok false) (hwritable : value.isWritable = false) :
      CallRaises p (.show value) .tooManyDigits

/-- A call that a grammar itself makes raises a fault. -/
inductive Grammar.CallRaises : Grammar → Call → Fault → Prop
  | satisfy {test : Char → Except Fault Bool} {expected : String} {c : Char} {e : Fault}
      (h : test c = .error e) : CallRaises (.satisfy test expected) (.test c) e
  | map {p : Grammar} {f : Value → Except Fault Value} {value : Value} {e : Fault}
      (h : f value = .error e) : CallRaises (.map p f) (.map value) e
  | product {p : Product (Except Fault) Grammar} {call : Call} {e : Fault}
      (h : p.CallRaises call e) : CallRaises (.product p) call e
  | variant {v : Variant (Except Fault) Grammar} {call : Call} {e : Fault}
      (h : v.product.CallRaises call e) : CallRaises (.variant v) call e
  | sum {variants : List (Variant (Except Fault) Grammar)} {v : Variant (Except Fault) Grammar}
      {call : Call} {e : Fault} (hv : v ∈ variants) (h : v.product.CallRaises call e) :
      CallRaises (.sum variants) call e
  | custom {parser : Cursor → Except Fault (Outcome Value)} {s : Cursor} {e : Fault}
      (h : parser s = .error e) : CallRaises (.custom parser) (.custom s.pos) e

/-- A check is related to itself if the faults that it raises are admitted. -/
theorem related_accepts {step : Step (Except Fault) Grammar} {parser : Parser Value}
    (h : ∀ check value e, step.check = some check → check value = .error e →
      R.Admits (.check value) e) (value : Value) :
    R.Holds (Parser.accepts ⟨step.field, parser, observedCheck step.check⟩ value)
      (Parser.accepts ⟨step.field, parser, observedCheck step.check⟩ value) := by
  obtain ⟨field, part, check⟩ := step
  cases check with
  | none => exact R.pure _
  | some check => exact R.consult _ fun e he => h check value e rfl he

/-- A value is rejected by the check of a step. -/
theorem exists_of_accepts_false {step : Step (Except Fault) Grammar} {parser : Parser Value}
    {value : Value}
    (h : (Parser.accepts ⟨step.field, parser, observedCheck step.check⟩ value).answer = .ok false) :
    ∃ check, step.check = some check ∧ check value = .ok false := by
  obtain ⟨field, part, check⟩ := step
  cases check with
  | none => cases h
  | some check => exact ⟨check, rfl, by rwa [← Run.consult_answer (.check value) (check value)]⟩

/-- Two readings by a product are related if those by its steps are. -/
theorem related_productParser {p : Product (Except Fault) Grammar}
    (hraises : ∀ call e, p.CallRaises call e → R.Admits call e)
    (h : ∀ step ∈ p.steps, R.Relates (step.parser.parser edge) (step.parser.parser edge')) :
    R.Relates (Parser.product (productParser edge p)) (Parser.product (productParser edge' p)) := by
  obtain ⟨build, steps, skipsBetween, skipsAround⟩ := p
  rw [productParser, productParser, stepParsers_eq_map, stepParsers_eq_map]
  refine Parser.related_product (fun _ => ?_) fun step hstep => ?_
  · exact R.consult _ fun e he => hraises _ e (.build he)
  · refine Parser.related_stepFields rfl rfl ?_ ?_ (h step hstep)
    · exact related_accepts fun check value e hcheck he => hraises _ e (.check hstep hcheck he)
    · intro value hrejected hwritable
      obtain ⟨check, hcheck, hfalse⟩ := exists_of_accepts_false hrejected
      exact hraises _ _ (.show hstep hcheck hfalse hwritable)

/-- Two readings by a variant are related if those by its steps are. -/
theorem related_variantParser {v : Variant (Except Fault) Grammar}
    (hraises : ∀ call e, v.product.CallRaises call e → R.Admits call e)
    (h : ∀ step ∈ v.product.steps, R.Relates (step.parser.parser edge) (step.parser.parser edge')) :
    R.Relates (Parser.variant (variantParser edge v)) (Parser.variant (variantParser edge' v)) := by
  obtain ⟨name, p⟩ := v
  exact Parser.related_retagged (related_productParser hraises h) (some name)

/-- The names of variants are those of their parsers. -/
theorem names_variantParser (edge : Option String → Target Description → Parser Value)
    (variants : List (Variant (Except Fault) Grammar)) :
    (variants.map (variantParser edge)).map (·.name) = variants.map (·.name) := by
  rw [List.map_map]
  exact List.map_congr_left fun v _ => by cases v; rfl

/-- Two readings by a grammar are related if they are at every edge behind it, and if the faults of
the calls behind it are admitted. -/
theorem Grammar.parser_related (R : RunRelation) (defs : Definitions) {g : Grammar}
    (hraises : ∀ h call e, g.Reaches defs h → h.CallRaises call e → R.Admits call e)
    (hedge : ∀ label target, g.Reaches defs (.edge label target) →
      R.Relates (edge label target) (edge' label target)) :
    R.Relates (g.parser edge) (g.parser edge') := by
  induction g using Grammar.induction_parts with
  | whole g ih =>
    have hparts : ∀ p ∈ g.parts, R.Relates (p.parser edge) (p.parser edge') := fun p hp =>
      ih p hp (fun h call e hreach => hraises h call e (.part hp hreach))
        fun label target hreach => hedge label target (.part hp hreach)
    -- the calls of the grammar itself, those of its parts left out
    have hown : ∀ call e, g.CallRaises call e → R.Admits call e :=
      fun call e => hraises g call e (.refl g)
    cases g with
    | leaf l => exact l.parser_reads.related
    | satisfy test expected =>
      refine Parser.related_map (Parser.related_satisfy fun c => ?_) _
      exact R.consult _ fun e he => hown _ e (.satisfy he)
    | sequence parts =>
      rw [Grammar.parser, Grammar.parser, parsers_eq_map, parsers_eq_map]
      exact Parser.related_map (Parser.related_sequence hparts) _
    | oneOf parts =>
      rw [Grammar.parser, Grammar.parser, parsers_eq_map, parsers_eq_map]
      exact Parser.related_choice (fun _ _ => trivial) hparts
    | optional p default => exact Parser.related_optional (hparts p List.mem_cons_self) default
    | many p => exact Parser.related_map (Parser.related_many (hparts p List.mem_cons_self)) _
    | many1 p => exact Parser.related_map (Parser.related_many1 (hparts p List.mem_cons_self)) _
    | map p f =>
      refine Parser.related_mapRun (hparts p List.mem_cons_self) fun value => ?_
      exact R.consult _ fun e he => hown _ e (.map he)
    | product p =>
      refine related_productParser (fun call e h => hown call e (.product h)) fun _ hstep => ?_
      exact hparts _ (List.mem_map_of_mem hstep)
    | variant v =>
      refine related_variantParser (fun call e h => hown call e (.variant h)) fun _ hstep => ?_
      exact hparts _ (List.mem_map_of_mem hstep)
    | sum variants =>
      rw [Grammar.parser, Grammar.parser, variantParsers_eq_map, variantParsers_eq_map, Parser.sum,
        Parser.sum, names_variantParser, names_variantParser, List.map_map, List.map_map]
      refine Parser.related_choice (fun _ _ => trivial) fun v hv => ?_
      refine related_variantParser (fun call e h => hown call e (.sum hv h)) fun _ hstep => ?_
      exact hparts _ (mem_parts_sum hv hstep)
    | edge label target => exact hedge label target (.refl _)
    | probed label p => exact Parser.related_probed (hparts p List.mem_cons_self) label
    | retagged tag p => exact Parser.related_retagged (hparts p List.mem_cons_self) tag
    | custom parser => exact fun s => R.consult _ fun e he => hown _ e (.custom he)

/-- Going on with the grammar that an edge is resolved to is related if going on with this one
is. -/
theorem RunRelation.resolved (R : RunRelation) (label : Option String)
    {target : Target Description} {next next' : Grammar → Run (Outcome Value)}
    (hraises : ∀ e, target.resolve defs = .error e → R.Admits .target e)
    (h : ∀ g, target.resolve defs = .ok g → R.Holds (next g) (next' g)) :
    R.Holds
      ((announced label).bind fun _ => (Run.consult .target (target.resolve defs)).bind next)
      ((announced label).bind fun _ => (Run.consult .target (target.resolve defs)).bind next') := by
  have hannounced : R.Holds (announced label) (announced label) := by
    cases label with
    | none => exact R.pure _
    | some label => exact R.emit trivial
  refine R.bind hannounced fun _ _ => R.bind (R.consult _ hraises) fun g hresolve => h g ?_
  rwa [Run.consult_answer] at hresolve

/-- What is kept by attempts at edges holds of every reading by a grammar, if the faults of the
calls and of the targets behind the grammar are admitted. -/
theorem Grammar.parserWithin_self (R : RunRelation)
    (hrefused : R.Relates (Parser.refused : Parser Value) Parser.refused)
    (hedge : ∀ {parser : Parser Value}, R.Relates parser parser →
      R.Relates (Parser.edge parser) (Parser.edge parser))
    {g : Grammar} (hraises : ∀ h call e, g.Reaches defs h → h.CallRaises call e → R.Admits call e)
    (htarget : ∀ label target e, g.Reaches defs (.edge label target) →
      target.resolve defs = .error e → R.Admits .target e) (limit : Nat) :
    R.Relates (g.parserWithin defs limit) (g.parserWithin defs limit) := by
  induction limit generalizing g with
  | zero => exact Grammar.parser_related R defs hraises fun _ _ _ => hrefused
  | succ limit ih =>
    refine Grammar.parser_related R defs hraises fun label target hreach => hedge fun s => ?_
    refine R.resolved label (fun e => htarget label target e hreach) fun g' hresolve => ?_
    have hreach' : g.Reaches defs g' := hreach.trans (.target hresolve (.refl g'))
    exact ih (fun h call e hlater => hraises h call e (hreach'.trans hlater))
      (fun label target e hlater => htarget label target e (hreach'.trans hlater)) s

end TextGrammar
