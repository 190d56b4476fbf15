import TextGrammar.Proofs.Grammar.Guarantees
import TextGrammar.Proofs.Leaf.Local

/-!
# Reading behind other characters

No standard grammar looks behind the cursor at which it is read. With more characters before
the text everything happens as without them, at positions that are greater by their count;
so reading at a cursor is reading the rest of the text at that cursor from its start.
-/

namespace TextGrammar

variable {defs : Definitions}

/-- Announcing an edge does not see where the text stands. -/
theorem isPlaceless_announced (label : Option String) : (announced label).IsPlaceless := by
  cases label <;> exact fun _ => rfl

/-- Checking a value does not see where the text stands. -/
theorem isPlaceless_accepts {step : Step (Except Fault) Grammar} {parser : Parser Value}
    (value : Value) :
    (Parser.accepts ⟨step.field, parser, observedCheck step.check⟩ value).IsPlaceless := by
  obtain ⟨field, part, check⟩ := step
  cases check with
  | none => exact Run.isPlaceless_pure _
  | some check => exact Run.isPlaceless_consult (fun _ => rfl) _

section Parts

variable {edge : Option String → Target Description → Parser Value}

/-- A product is local if its steps are. -/
theorem isLocal_productParser {p : Product (Except Fault) Grammar}
    (h : ∀ step ∈ p.steps, (step.parser.parser edge).IsLocal) :
    (Parser.product (productParser edge p)).IsLocal := by
  obtain ⟨build, steps, skipsBetween, skipsAround⟩ := p
  rw [productParser, stepParsers_eq_map]
  refine Parser.isLocal_product (fun _ => Run.isPlaceless_consult (fun _ => rfl) _)
    fun step hstep => ?_
  exact Parser.isLocal_stepFields (h step hstep) isPlaceless_accepts

/-- A variant is local if its steps are. -/
theorem isLocal_variantParser {v : Variant (Except Fault) Grammar}
    (h : ∀ step ∈ v.product.steps, (step.parser.parser edge).IsLocal) :
    (Parser.variant (variantParser edge v)).IsLocal := by
  obtain ⟨name, p⟩ := v
  exact Parser.isLocal_retagged (isLocal_productParser h) (some name)

/-- A standard grammar is read by a local parser if the edges behind it are. -/
theorem Grammar.parser_isLocal
    (hadvances : ∀ label target, (Grammar.edge label target).IsStandard defs →
      (edge label target).Advances ((Grammar.edge label target).Nullable defs))
    {g : Grammar} (hg : g.IsStandard defs)
    (hedge : ∀ label target, g.Reaches defs (.edge label target) → (edge label target).IsLocal) :
    (g.parser edge).IsLocal := by
  induction g using Grammar.induction_parts with
  | whole g ih =>
    have hparts : ∀ p ∈ g.parts, (p.parser edge).IsLocal := fun p hp =>
      ih p hp (hg.part hp) fun label target hreach => hedge label target (.part hp hreach)
    -- a repetition of a part that went backwards would not be local
    have hadvance : ∀ p ∈ g.parts, (p.parser edge).Advances (p.Nullable defs) := fun p hp =>
      Grammar.parser_advances hadvances (hg.part hp)
    cases g with
    | leaf l => exact l.isLocal
    | satisfy test expected =>
      refine Parser.isLocal_map (Parser.isLocal_satisfy fun c => ?_) _
      exact Run.isPlaceless_consult (fun _ => rfl) _
    | sequence parts =>
      rw [Grammar.parser, parsers_eq_map]
      exact Parser.isLocal_map (Parser.isLocal_sequence hparts) _
    | oneOf parts =>
      rw [Grammar.parser, parsers_eq_map]
      exact Parser.isLocal_choice (fun _ _ _ => rfl) hparts
    | optional p default => exact Parser.isLocal_optional (hparts p List.mem_cons_self) default
    | many p =>
      have hmany :=
        Parser.isLocal_many (hparts p List.mem_cons_self) (hadvance p List.mem_cons_self)
      exact Parser.isLocal_map hmany _
    | many1 p =>
      have hmany :=
        Parser.isLocal_many1 (hparts p List.mem_cons_self) (hadvance p List.mem_cons_self)
      exact Parser.isLocal_map hmany _
    | map p f =>
      exact Parser.isLocal_mapRun (hparts p List.mem_cons_self) fun _ =>
        Run.isPlaceless_consult (fun _ => rfl) _
    | product p =>
      exact isLocal_productParser fun _ hstep => hparts _ (List.mem_map_of_mem hstep)
    | variant v =>
      exact isLocal_variantParser fun _ hstep => hparts _ (List.mem_map_of_mem hstep)
    | sum variants =>
      rw [Grammar.parser, Parser.sum, variantParsers_eq_map, List.map_map, List.map_map]
      refine Parser.isLocal_choice (fun _ _ _ => rfl) fun v hv => ?_
      exact isLocal_variantParser fun _ hstep => hparts _ (mem_parts_sum hv hstep)
    | edge label target => exact hedge label target (.refl _)
    | probed label p => exact Parser.isLocal_probed (hparts p List.mem_cons_self) label
    | retagged tag p => exact Parser.isLocal_retagged (hparts p List.mem_cons_self) tag
    | custom parser => exact absurd hg (Grammar.not_isStandard_custom parser)

end Parts

/-- What an edge leads to is read by a local parser if the grammar that it is resolved to is. -/
theorem isLocal_followed {label : Option String} {target : Target Description} {limit : Nat}
    (h : ∀ g, target.resolve defs = .ok g → (g.parserWithin defs limit).IsLocal) :
    (followed defs limit label target).IsLocal := by
  intro front s
  apply Run.bind_behind (isPlaceless_announced label front)
  intro _ _
  apply Run.bind_behind (Run.isPlaceless_consult (fun _ => rfl) _ front)
  intro g hresolve
  rw [Run.consult_answer] at hresolve
  exact h g hresolve front s

/-- A standard grammar reads the same text alike, wherever it stands. -/
theorem Grammar.parserWithin_isLocal {g : Grammar} (hg : g.IsStandard defs) (limit : Nat) :
    (g.parserWithin defs limit).IsLocal := by
  induction limit generalizing g with
  | zero =>
    rw [Grammar.parserWithin_eq]
    refine Grammar.parser_isLocal (fun _ _ hedge => edgeWithin_advances hedge 0) hg fun _ _ _ => ?_
    exact Parser.isLocal_refused
  | succ limit ih =>
    rw [Grammar.parserWithin_eq]
    refine Grammar.parser_isLocal (fun _ _ hedge => edgeWithin_advances hedge (limit + 1)) hg
      fun label target hreach => ?_
    refine Parser.isLocal_edge (isLocal_followed fun g' hresolve => ?_)
    exact ih (hg.of_reaches (hreach.trans (.target hresolve (.refl g'))))

/-- With more characters before the text a standard grammar reads as without them. The same happens,
at positions that are greater by their count: a match has the same value, tag and text, and a
failure has the same kind and message and the same failures nested in it. In particular, a
reading at a cursor is a reading of the rest of the text there. -/
theorem Grammar.parserWithin_behind {g : Grammar} (hg : g.IsStandard defs) (limit : Nat)
    (front : Array Char) (s : Cursor) :
    (g.parserWithin defs limit (s.behind front)).events =
        (g.parserWithin defs limit s).events.map (Event.behind front) ∧
      (∀ m, (g.parserWithin defs limit s).answer = .ok (.matched m) →
        ∃ m', (g.parserWithin defs limit (s.behind front)).answer = .ok (.matched m') ∧
          m'.value = m.value ∧ m'.tag = m.tag ∧ m'.text = m.text ∧
          m'.start = front.size + m.start ∧ m'.rest = m.rest.behind front) ∧
      (∀ f, (g.parserWithin defs limit s).answer = .ok (.failed f) →
        ∃ f', (g.parserWithin defs limit (s.behind front)).answer = .ok (.failed f') ∧
          f' = f.behind front ∧ f'.kindName = f.kindName ∧ f'.message = f.message ∧
          f'.pos = front.size + f.pos ∧ f'.notes = f.notes.map (Note.behind front)) ∧
      (∀ e, (g.parserWithin defs limit s).answer = .error e →
        (g.parserWithin defs limit (s.behind front)).answer = .error e) ∧
      g.parserWithin defs limit s =
        (g.parserWithin defs limit (.ofText (String.ofList s.rest))).behind
          (s.text.extract 0 s.pos) (Outcome.behind (s.text.extract 0 s.pos)) := by
  have hlocal := Grammar.parserWithin_isLocal hg limit
  have hanswer : (g.parserWithin defs limit (s.behind front)).answer =
      (g.parserWithin defs limit s).answer.map (Outcome.behind front) := by
    rw [hlocal front s]
    rfl
  refine ⟨?_, fun m hm => ?_, fun f hf => ?_, fun e he => ?_, ?_⟩
  · rw [hlocal front s]
    rfl
  · have hstart := (Grammar.parserWithin_advances hg limit s).of_ok hm
    have hplace : 0 ≤ m.start := hstart.start_eq ▸ Int.natCast_nonneg _
    refine ⟨m.behind front, ?_, rfl, rfl, m.text_behind front hplace, rfl, rfl⟩
    rw [hanswer, hm]
    rfl
  · refine ⟨f.behind front, ?_, rfl, f.kindName_behind front, f.message_behind front, ?_,
      f.notes_behind front⟩
    · rw [hanswer, hf]
      rfl
    · rw [Failure.pos, f.cursor_behind front]
      rfl
  · rw [hanswer, he]
    rfl
  · have hrest := hlocal (s.text.extract 0 s.pos) (.ofText (String.ofList s.rest))
    rwa [s.behind_ofText_rest] at hrest

/-- Brackets are read alike at the start of a text and in the middle of one. -/
theorem brackets_behind :
    ∃ m m', (brackets.parserWithin nestedBrackets 3 (.ofText "[7]x")).answer = .ok (.matched m) ∧
      (brackets.parserWithin nestedBrackets 3 ⟨"ab[7]x".toList.toArray, 2, by decide⟩).answer =
        .ok (.matched m') ∧
      m.rest.pos = 3 ∧ m'.rest.pos = 5 ∧ m'.value = m.value ∧ m'.text = m.text := by
  have hplace : (Cursor.ofText "[7]x").behind #['a', 'b'] =
      ⟨"ab[7]x".toList.toArray, 2, by decide⟩ := rfl
  obtain ⟨m, hanswer, hpos⟩ := brackets_matched
  have hbehind := Grammar.parserWithin_behind brackets_isStandard 3 #['a', 'b'] (.ofText "[7]x")
  obtain ⟨m', hanswer', hvalue, -, htext, -, hrest⟩ := hbehind.2.1 m hanswer
  refine ⟨m, m', hanswer, hplace ▸ hanswer', hpos, ?_, hvalue, htext⟩
  rw [hrest, Cursor.pos_behind, hpos]
  rfl

end TextGrammar
