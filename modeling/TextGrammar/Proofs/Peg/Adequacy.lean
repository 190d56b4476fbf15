import Mathlib
import TextGrammar.Proofs.Grammar.Guarantees
import TextGrammar.Proofs.Grammar.Steps
import TextGrammar.Proofs.Peg.Soundness

/-!
# Readings are derivations

A run in which no user's function raises a fault and no attempt is refused ends with exactly
the verdict that the rules of parsing expressions derive. Soundness is an induction over
grammars inside one over limits; completeness follows from it, since such a run always
answers and the rules never contradict each other.
-/

namespace TextGrammar

variable {defs : Definitions}

/-- An edge follows a relation if what it leads to does. A fault behind the edge has interrupted the
run, also if the edge recovers from it. -/
theorem Parser.follows_edge {parser : Parser Value} {empty : Prop}
    {rule : Cursor → Verdict Value → Prop} (hadvances : parser.Advances empty)
    (h : parser.Follows fun s verdict => rule s (verdict.map .box)) :
    (Parser.edge parser).Follows rule := by
  intro s havoids outcome hanswer
  have hinside : (parser s).Avoids Event.IsInterruption := fun event hevent =>
    havoids event (Parser.events_subset_edge parser s hevent)
  cases hinner : (parser s).answer with
  | error e =>
    have hraised := (hadvances s).raised hinner
    exact absurd (.inl trivial) (hinside _ hraised)
  | ok inner =>
    have hrule := h s hinside inner hinner
    simp only [Parser.edge, hinner] at hanswer
    cases hanswer
    cases inner with
    | matched m => exact hrule
    | failed f => exact hrule

/-- The parser of a grammar follows the rules for it if the parsers of its edges do. -/
theorem Grammar.parser_follows {edge : Option String → Target Description → Parser Value}
    (hedge : ∀ label target, (Grammar.edge label target).IsStandard defs →
      (edge label target).Follows (Derives defs (.edge label target)))
    {g : Grammar} (hg : g.IsStandard defs) : (g.parser edge).Follows (Derives defs g) := by
  induction g using Grammar.induction_parts with
  | whole g ih =>
    have hparts : ∀ p ∈ g.parts, (p.parser edge).Follows (Derives defs p) :=
      fun p hp => ih p hp (hg.part hp)
    cases g with
    | leaf l => exact Parser.follows_leaf l
    | satisfy test expected => exact Parser.follows_map Parser.follows_satisfy
    | sequence parts =>
      rw [Grammar.parser, parsers_eq_map]
      exact Parser.follows_map (Parser.follows_sequence hparts)
    | oneOf parts =>
      rw [Grammar.parser, parsers_eq_map]
      exact Parser.follows_choice (Derives defs) (fun gs => Derives defs (.oneOf gs))
        (fun _ => .oneOf_nil) .oneOf_first .oneOf_later hparts
    | optional p default => exact Parser.follows_optional (hparts p List.mem_cons_self) default
    | many p => exact Parser.follows_map (Parser.follows_many (hparts p List.mem_cons_self))
    | many1 p => exact Parser.follows_map (Parser.follows_many1 (hparts p List.mem_cons_self))
    | map p f => exact Parser.follows_mapRun (hparts p List.mem_cons_self)
    | product p => exact Parser.follows_product fun _ hstep => hparts _ (List.mem_map_of_mem hstep)
    | variant v => exact Parser.follows_variant fun _ hstep => hparts _ (List.mem_map_of_mem hstep)
    | sum variants =>
      rw [Grammar.parser, variantParsers_eq_map, Parser.sum, List.map_map, List.map_map]
      refine Parser.follows_choice (fun v => Derives defs (.variant v))
        (fun vs => Derives defs (.sum vs)) (fun _ => .sum_nil) .sum_first .sum_later ?_
      exact fun v hv => Parser.follows_variant fun _ hstep => hparts _ (mem_parts_sum hv hstep)
    | edge label target => exact hedge label target hg
    | probed label p =>
      intro s
      refine (Run.says_emit trivial).bind fun _ (_ : True) => ?_
      exact (hparts p List.mem_cons_self s).mono fun _ h => .probed h
    | retagged tag p =>
      intro s
      exact (hparts p List.mem_cons_self s).ifMatched (fun _ hm => Run.says_pure (.retagged hm))
        (fun _ hf => .retagged hf)
    | custom parser => exact absurd hg (not_isStandard_custom parser)

/-- Announcing an edge says nothing. -/
theorem says_announced (label : Option String) :
    (announced label).Says Event.IsInterruption fun _ => True := by
  cases label with
  | none => exact Run.says_pure trivial
  | some label => exact Run.says_emit trivial

/-- Within every limit the parser of a standard grammar follows the rules. -/
theorem Grammar.parserWithin_follows {g : Grammar} (hg : g.IsStandard defs) (limit : Nat) :
    (g.parserWithin defs limit).Follows (Derives defs g) := by
  induction limit generalizing g with
  | zero =>
    rw [Grammar.parserWithin_eq]
    apply Grammar.parser_follows _ hg
    intro label target _ s havoids
    exact absurd (.inr trivial) (havoids (.refused s.pos) List.mem_cons_self)
  | succ limit ih =>
    rw [Grammar.parserWithin_eq]
    apply Grammar.parser_follows _ hg
    intro label target hedge
    have hadvances : (followed defs limit label target).Advances _ :=
      followed_advances fun g' hresolve =>
        Grammar.parserWithin_advances (hedge.target hresolve) limit
    apply Parser.follows_edge hadvances
    intro s
    refine (says_announced label).bind fun _ _ => ?_
    refine (Run.says_consult fun _ hresolve => hresolve).bind fun g' hresolve => ?_
    refine (ih (hedge.target hresolve) s).mono fun outcome houtcome => ?_
    cases outcome with
    | matched m => exact .edge hresolve houtcome
    | failed f => exact .edge_fail hresolve houtcome

/-- A run that nothing interrupts answers with a verdict that the rules derive. -/
theorem Grammar.exists_derivation {g : Grammar} (hg : g.IsStandard defs) {limit : Nat} {s : Cursor}
    (hraised : ∀ e, .raised e ∉ (g.parserWithin defs limit s).events)
    (hrefused : ∀ pos, .refused pos ∉ (g.parserWithin defs limit s).events) :
    ∃ outcome, (g.parserWithin defs limit s).answer = .ok outcome ∧
      Derives defs g s outcome.verdict := by
  have hquiet := Run.avoids_interruption hraised hrefused
  cases hanswer : (g.parserWithin defs limit s).answer with
  | error e =>
    have hevent := (Grammar.parserWithin_advances hg limit s).raised hanswer
    exact absurd hevent (hraised e)
  | ok outcome =>
    exact ⟨outcome, rfl, Grammar.parserWithin_follows hg limit s hquiet outcome hanswer⟩

/-- The rules derive one verdict at most, and what a run that nothing interrupts answers is what
they derive. -/
theorem Grammar.parserWithin_iff_derives (g : Grammar) (s : Cursor) :
    (∀ verdict verdict', Derives defs g s verdict → Derives defs g s verdict' →
      verdict = verdict') ∧
    (g.IsStandard defs → ∀ limit,
      (∀ e, .raised e ∉ (g.parserWithin defs limit s).events) →
      (∀ pos, .refused pos ∉ (g.parserWithin defs limit s).events) →
        (∀ value t, (∃ m, (g.parserWithin defs limit s).answer = .ok (.matched m) ∧
          m.value = value ∧ m.rest = t) ↔ Derives defs g s (.success value t)) ∧
        ((∃ f, (g.parserWithin defs limit s).answer = .ok (.failed f)) ↔
          Derives defs g s .fail)) := by
  constructor
  · intro verdict verdict' h h'
    exact h.unique verdict' h'
  intro hg limit hraised hrefused
  -- the answer is derived; that nothing else is derived gives the other directions
  obtain ⟨outcome, hanswer, hderives⟩ := Grammar.exists_derivation hg hraised hrefused
  rw [hanswer]
  cases outcome with
  | matched m =>
    constructor
    · intro value t
      constructor
      · rintro ⟨m', hm', rfl, rfl⟩
        cases hm'
        exact hderives
      · intro h
        cases hderives.unique _ h
        exact ⟨m, rfl, rfl, rfl⟩
    · constructor
      · rintro ⟨f, hf⟩
        cases hf
      · intro h
        cases hderives.unique _ h
  | failed f =>
    constructor
    · intro value t
      constructor
      · rintro ⟨m, hm, -⟩
        cases hm
      · intro h
        cases hderives.unique _ h
    · constructor
      · intro _
        exact hderives
      · intro _
        exact ⟨f, rfl⟩

/-- The rules derive what is read of nested brackets. -/
theorem brackets_derives :
    ∃ value t, Derives nestedBrackets brackets (.ofText "[7]x") (.success value t) ∧ t.pos = 3 := by
  obtain ⟨m, hanswer, hpos⟩ := brackets_matched
  have hiff := (Grammar.parserWithin_iff_derives brackets (.ofText "[7]x")).2 brackets_isStandard 3
    brackets_uninterrupted.1 brackets_uninterrupted.2
  exact ⟨m.value, m.rest, (hiff.1 _ _).mp ⟨m, hanswer, rfl, rfl⟩, hpos⟩

/-! ### Rejected values without a text -/

/-- The functions of a product that rejects its integer never raise a fault. -/
theorem rejectedProduct_neverRaises :
    (Grammar.product rejectedProduct).NeverRaises ⟨[]⟩ := by
  intro h hreach
  have hparts : h = .product rejectedProduct ∨ ∃ l, h = .leaf l := by
    refine hreach.of_closed (S := fun h => h = .product rejectedProduct ∨ ∃ l, h = .leaf l)
      ?_ ?_ (.inl rfl)
    · rintro g (rfl | ⟨l, rfl⟩) p hp
      · exact .inr ⟨_, List.mem_singleton.mp hp⟩
      · cases hp
    · rintro label target g (hedge | ⟨l, hedge⟩) <;> cases hedge
  rcases hparts with rfl | ⟨l, rfl⟩
  · refine ⟨fun fields => ⟨_, rfl⟩, fun step hstep check hcheck value => ⟨false, ?_⟩⟩
    obtain rfl := List.mem_singleton.mp hstep
    cases hcheck
    rfl
  · trivial

/-- By the rules every integer is rejected, of whatever size. -/
theorem derives_rejectedProduct (n : Nat) :
    Derives ⟨[]⟩ (.product rejectedProduct) (.ofText (Text.writeNat n)) .fail := by
  have hread := Leaf.reading_unsigned_writeNat n
  rw [← Cursor.rest_ofText] at hread
  exact .product_fail (.first_fail (.rejected (.leaf hread) rfl))

/-- No attempt is refused where an integer of too many digits is rejected. -/
theorem rejectedProduct_unrefused {n : Nat} (hn : 10 ^ maxDigits ≤ n) (pos : Nat) :
    .refused pos ∉ ((Grammar.product rejectedProduct).parserWithin ⟨[]⟩ 1
      (.ofText (Text.writeNat n))).events := by
  rw [rejectedProduct_read hn]
  simp

/-- The rules derive a failure for an integer of too many digits that is rejected. No function
raises a fault and no attempt is refused, but the reading does not fail: it ends with a fault. -/
theorem rejectedProduct_differs :
    (Grammar.product rejectedProduct).NeverRaises ⟨[]⟩ ∧
      (∀ pos, .refused pos ∉ ((Grammar.product rejectedProduct).parserWithin ⟨[]⟩ 1
        (.ofText (Text.writeNat (10 ^ maxDigits)))).events) ∧
      Derives ⟨[]⟩ (.product rejectedProduct) (.ofText (Text.writeNat (10 ^ maxDigits))) .fail ∧
      ((Grammar.product rejectedProduct).parserWithin ⟨[]⟩ 1
        (.ofText (Text.writeNat (10 ^ maxDigits)))).answer = .error .tooManyDigits := by
  have hle := Nat.le_refl (10 ^ maxDigits)
  have hread := rejectedProduct_read hle ⟨[]⟩ 1
  exact ⟨rejectedProduct_neverRaises, rejectedProduct_unrefused hle, derives_rejectedProduct _,
    congrArg Run.answer hread⟩

end TextGrammar
