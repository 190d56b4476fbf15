import TextGrammar.Proofs.Grammar.Events
import TextGrammar.Proofs.Grammar.Guarantees
import TextGrammar.Proofs.Grammar.Limit
import TextGrammar.Proofs.Parser.Refusal
import TextGrammar.Run

/-!
# Refused attempts

A nesting limit shows itself by refused attempts alone. As long as none is refused, a reading is
the same within every larger limit. A refused attempt is a failure, though, and what is built
around it may go on without it: an option takes nothing in its place, a repetition ends early,
a later alternative is tried. Where none of this can happen, text that is nested too deeply is
never read as something else.
-/

namespace TextGrammar

variable {defs : Definitions}

/-! ### Readings without refused attempts -/

/-- A limit that refuses no attempt of a reading is invisible: within every larger one the answer,
the calls, all other events and the log are the same, whatever is asked for. -/
theorem read_of_unrefused {operand : Operand} {limit limit' : Nat} {s : Cursor}
    (hle : limit ≤ limit')
    (hunrefused : ∀ pos, .refused pos ∉ (read defs limit operand s).events) :
    (read defs limit' operand s).answer = (read defs limit operand s).answer ∧
      (read defs limit' operand s).events = (read defs limit operand s).events ∧
      logLines (read defs limit' operand s).events = logLines (read defs limit operand s).events ∧
      ∀ complete, readOrReport defs limit' operand complete s =
        readOrReport defs limit operand complete s := by
  have hsame : ∀ g, operand.resolve defs = .ok g →
      g.parserWithin defs limit' s = g.parserWithin defs limit s := by
    intro g hbuilt
    rw [read_of_built hbuilt] at hunrefused
    refine g.parserWithin_persists hle s fun event hevent hrefusal => ?_
    cases event with
    | refused pos => exact hunrefused pos hevent
    | _ => exact hrefusal
  have hread : read defs limit' operand s = read defs limit operand s := by
    cases hbuilt : operand.resolve defs with
    | error e => rw [read, read, hbuilt]; rfl
    | ok g => rw [read_of_built hbuilt, read_of_built hbuilt, hsame g hbuilt]
  refine ⟨by rw [hread], by rw [hread], by rw [hread], fun complete => ?_⟩
  cases hbuilt : operand.resolve defs with
  | error e => rw [readOrReport, readOrReport, hbuilt]; rfl
  | ok g =>
    rw [readOrReport, readOrReport, hbuilt, Run.ofExcept, Run.pure_bind, Run.pure_bind,
      Parser.orReport, Parser.orReport, hsame g hbuilt]

/-- Three nested attempts are enough for a pair of brackets, so a thousand change nothing. -/
theorem brackets_within_thousand :
    (read nestedBrackets 1000 (.grammar brackets) (.ofText "[7]x")).answer =
      (read nestedBrackets 3 (.grammar brackets) (.ofText "[7]x")).answer := by
  have hbuilt := Operand.resolve_grammar nestedBrackets brackets
  have hunrefused := brackets_uninterrupted.2
  rw [← read_of_built hbuilt] at hunrefused
  exact (read_of_unrefused (by decide) hunrefused).1

/-! ### Hidden refusals -/

/-- A grammar is refused no attempt where another one matches. -/
def Grammar.GivesWayTo (defs : Definitions) (g h : Grammar) : Prop :=
  ∀ limit s m, (h.parserWithin defs limit s).answer = .ok (.matched m) →
    (g.parserWithin defs limit s).Avoids Event.IsRefusal

/-- A grammar hides no refused attempt of its parts behind a match: what it makes optional or
repeats does not fail over one, and an earlier alternative is refused none where a later one
matches. -/
def Grammar.ShowsRefusals (defs : Definitions) : Grammar → Prop
  | .optional part _ | .many part | .many1 part => ∀ limit s f,
    (part.parserWithin defs limit s).answer = .ok (.failed f) →
      (part.parserWithin defs limit s).Avoids Event.IsRefusal
  | .oneOf parts => parts.Pairwise (Grammar.GivesWayTo defs)
  | .sum variants => variants.Pairwise fun v w => Grammar.GivesWayTo defs (.variant v) (.variant w)
  | _ => True

section Parts

variable {edge : Option String → Target Description → Parser Value}

/-- A product makes its matches without refused attempts if its steps do. -/
theorem earnsMatches_productParser {p : Product (Except Fault) Grammar}
    (h : ∀ step ∈ p.steps, (step.parser.parser edge).EarnsMatches) :
    (Parser.product (productParser edge p)).EarnsMatches := by
  obtain ⟨build, steps, skipsBetween, skipsAround⟩ := p
  rw [productParser, stepParsers_eq_map]
  refine Parser.earnsMatches_product (fun _ => Run.avoids_refusal_consult _ _) fun step hstep => ?_
  exact Parser.earnsMatches_stepFields (h step hstep) avoids_accepts

/-- A variant makes its matches without refused attempts if its steps do. -/
theorem earnsMatches_variantParser {v : Variant (Except Fault) Grammar}
    (h : ∀ step ∈ v.product.steps, (step.parser.parser edge).EarnsMatches) :
    (Parser.variant (variantParser edge v)).EarnsMatches := by
  obtain ⟨name, p⟩ := v
  exact Parser.earnsMatches_retagged (earnsMatches_productParser h) (some name)

end Parts

/-- Within a limit a grammar that hides no refused attempt matches without any if the edges behind
it do. -/
theorem Grammar.earnsMatches_of_edges {g : Grammar} {limit : Nat}
    (hshows : ∀ h, g.Reaches defs h → h.ShowsRefusals defs)
    (hedge : ∀ label target, g.Reaches defs (.edge label target) →
      (edgeWithin defs limit label target).EarnsMatches) :
    (g.parser (edgeWithin defs limit)).EarnsMatches := by
  induction g using Grammar.induction_parts with
  | whole g ih =>
    have hparts : ∀ p ∈ g.parts, (p.parser (edgeWithin defs limit)).EarnsMatches := fun p hp =>
      ih p hp (fun h hreach => hshows h (.part hp hreach)) fun label target hreach =>
        hedge label target (.part hp hreach)
    have hshown := hshows g (.refl g)
    -- what is optional or repeated fails without refused attempts
    have hrepeated : ∀ p ∈ g.parts, (∀ limit s f,
        (p.parserWithin defs limit s).answer = .ok (.failed f) →
          (p.parserWithin defs limit s).Avoids Event.IsRefusal) →
        (p.parser (edgeWithin defs limit)).EarnsAnswers := by
      intro p hp hfails
      apply (hparts p hp).answers
      rw [← Grammar.parserWithin_eq]
      exact hfails limit
    cases g with
    | leaf l => exact fun s => (l.parser_reads.avoids s).unrefused
    | satisfy test expected =>
      intro s
      refine (Parser.avoids_map (Parser.avoids_satisfy (fun c => ?_) s) _).unrefused
      exact Run.avoids_refusal_consult (.test c) (test c)
    | sequence parts =>
      rw [Grammar.parser, parsers_eq_map]
      exact Parser.earnsMatches_map (Parser.earnsMatches_sequence hparts) _
    | oneOf parts =>
      rw [Grammar.parser, parsers_eq_map]
      refine Parser.earnsMatches_choice hparts (hshown.imp fun hway s m => ?_)
      simpa only [Grammar.parserWithin_eq] using hway limit s m
    | optional p default =>
      exact Parser.earnsMatches_optional (hrepeated p List.mem_cons_self hshown) default
    | many p =>
      have hmany := Parser.earnsMatches_many (hrepeated p List.mem_cons_self hshown)
      exact Parser.earnsMatches_map hmany _
    | many1 p =>
      have hmany := Parser.earnsMatches_many1 (hrepeated p List.mem_cons_self hshown)
      exact Parser.earnsMatches_map hmany _
    | map p f =>
      exact Parser.earnsMatches_mapRun (hparts p List.mem_cons_self) fun _ =>
        Run.avoids_refusal_consult _ _
    | product p =>
      exact earnsMatches_productParser fun _ hstep => hparts _ (List.mem_map_of_mem hstep)
    | variant v =>
      exact earnsMatches_variantParser fun _ hstep => hparts _ (List.mem_map_of_mem hstep)
    | sum variants =>
      rw [Grammar.parser, Parser.sum, variantParsers_eq_map, List.map_map, List.map_map]
      refine Parser.earnsMatches_choice (fun v hv => ?_) (hshown.imp fun hway s m => ?_)
      · exact earnsMatches_variantParser fun _ hstep => hparts _ (mem_parts_sum hv hstep)
      · have hvariant := hway limit s m
        rwa [Grammar.parserWithin_eq, Grammar.parserWithin_eq] at hvariant
    | edge label target => exact hedge label target (.refl _)
    | probed label p => exact Parser.earnsMatches_probed (hparts p List.mem_cons_self) label
    | retagged tag p => exact Parser.earnsMatches_retagged (hparts p List.mem_cons_self) tag
    | custom parser => exact fun s => (Run.avoids_refusal_consult _ _).unrefused

/-- A grammar that hides no refused attempt matches without any. -/
theorem Grammar.earnsMatches {g : Grammar} (hshows : ∀ h, g.Reaches defs h → h.ShowsRefusals defs)
    (limit : Nat) : (g.parserWithin defs limit).EarnsMatches := by
  induction limit generalizing g with
  | zero =>
    rw [Grammar.parserWithin_eq]
    exact Grammar.earnsMatches_of_edges hshows fun _ _ _ => Parser.earnsMatches_refused
  | succ limit ih =>
    rw [Grammar.parserWithin_eq]
    refine Grammar.earnsMatches_of_edges hshows fun label target hreach => ?_
    refine Parser.earnsMatches_edge fun s => ?_
    refine (avoids_announced label).bind_unrefused fun _ _ => ?_
    refine (Run.avoids_refusal_consult _ _).bind_unrefused fun g' hresolve => ?_
    rw [Run.consult_answer] at hresolve
    exact ih (fun h hbehind => hshows h (hreach.trans (.target hresolve hbehind))) s

/-- Where nothing hides a refused attempt, a match within a limit is made without any, and it is the
match within every larger limit: text that is nested too deeply is not read as something else. -/
theorem Grammar.match_of_le {g : Grammar} (hshows : ∀ h, g.Reaches defs h → h.ShowsRefusals defs)
    {limit limit' : Nat} (hle : limit ≤ limit') {s : Cursor} {m : Match Value}
    (hmatched : (g.parserWithin defs limit s).answer = .ok (.matched m)) :
    (g.parserWithin defs limit' s).answer = .ok (.matched m) ∧
      ∀ pos, .refused pos ∉ (g.parserWithin defs limit s).events := by
  have havoids := Grammar.earnsMatches hshows limit s _ hmatched trivial
  refine ⟨?_, fun pos hrefused => havoids _ hrefused trivial⟩
  rw [g.parserWithin_persists hle s havoids, hmatched]

/-- A sequence that cannot open where a leaf matches gives way to the leaf. -/
theorem Grammar.givesWayTo_of_disjoint {l l' : Leaf} {parts : List Grammar}
    (hdisjoint : ∀ cs, l.reading cs = none ∨ l'.reading cs = none) :
    Grammar.GivesWayTo defs (.sequence (.leaf l :: parts)) (.leaf l') := by
  intro limit s m hmatched
  rw [Grammar.parserWithin_eq] at hmatched ⊢
  rcases hdisjoint s.rest with hnone | hnone
  · obtain ⟨f, -, hfailed⟩ := l.parser_reads.failed hnone
    rw [Grammar.parser, parsers]
    apply Parser.avoids_map
    rw [Parser.sequence, Grammar.parser, hfailed, Run.failed_ifMatched]
    exact Run.avoids_pure _
  · obtain ⟨f, -, hfailed⟩ := l'.parser_reads.failed hnone
    rw [Grammar.parser, hfailed] at hmatched
    cases Except.ok.inj hmatched

/-- No bracket is a digit. -/
theorem brackets_showRefusals :
    ∀ h, brackets.Reaches nestedBrackets h → h.ShowsRefusals nestedBrackets := by
  intro h hreach
  rcases brackets_reaches hreach with rfl | rfl | rfl | ⟨l, rfl⟩
  · trivial
  · refine List.pairwise_pair.mpr (Grammar.givesWayTo_of_disjoint fun cs => ?_)
    cases cs with
    | nil => exact .inl rfl
    | cons c cs =>
      by_cases hc : c = '['
      · subst hc
        exact .inr rfl
      · left
        simp [Leaf.reading, Reading.map, Reading.literal, Ne.symm hc]
  all_goals exact trivial

/-- A pair of brackets is read alike within three nested attempts and within a thousand. -/
theorem brackets_match_within_thousand :
    ∃ m, (brackets.parserWithin nestedBrackets 3 (.ofText "[7]x")).answer = .ok (.matched m) ∧
      (brackets.parserWithin nestedBrackets 1000 (.ofText "[7]x")).answer = .ok (.matched m) := by
  obtain ⟨m, hmatched, -⟩ := brackets_matched
  exact ⟨m, hmatched, (Grammar.match_of_le brackets_showRefusals (by decide) hmatched).1⟩

set_option maxRecDepth 4000 in
/-- Optional brackets hide that they are nested too deeply: within one attempt nothing is read where
more attempts read the whole text. -/
theorem optional_hides_refusal :
    ∃ m m', ((Grammar.optional brackets .null).parserWithin nestedBrackets 1
        (.ofText "[[7]]")).answer = .ok (.matched m) ∧
      ((Grammar.optional brackets .null).parserWithin nestedBrackets 3
        (.ofText "[[7]]")).answer = .ok (.matched m') ∧
      m.rest.pos = 0 ∧ m'.rest.pos = 5 := by
  exact ⟨_, _, by cbv, by cbv, rfl, rfl⟩

end TextGrammar
