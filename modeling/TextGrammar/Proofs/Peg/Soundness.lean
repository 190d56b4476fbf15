import TextGrammar.Proofs.Grammar.Contract
import TextGrammar.Proofs.Peg.Derivation

/-!
# Readings follow the rules

The parser of a grammar answers what the rules of parsing expressions derive, as long as no
user's function raises a fault and no attempt is refused on the way. This is shown for each
combination of parsers by itself: whatever relation its parts follow, the combination
follows the one that the rules make of it.
-/

namespace TextGrammar

variable {α β : Type} {defs : Definitions}

/-- A verdict with another value. -/
def Verdict.map (f : α → β) : Verdict α → Verdict β
  | .success value rest => .success (f value) rest
  | .fail => .fail

/-- What an outcome says apart from where it began, how it is tagged and why it fails. -/
def Outcome.verdict : Outcome α → Verdict α
  | .matched m => .success m.value m.rest
  | .failed _ => .fail

/-- The outcomes of uninterrupted runs of a parser obey a relation. -/
def Parser.Follows (parser : Parser α) (rule : Cursor → Verdict α → Prop) : Prop :=
  ∀ s, (parser s).Says Event.IsInterruption fun outcome => rule s outcome.verdict

namespace Parser

/-! ### Characters and leaves -/

/-- Changing the value follows a rule for the changed value. -/
theorem follows_map {parser : Parser α} {rule : Cursor → Verdict β → Prop} {f : α → β}
    (h : parser.Follows fun s verdict => rule s (verdict.map f)) : (map f parser).Follows rule :=
  fun s => (h s).ifMatched (fun _ hm => Run.says_pure hm) (fun _ hf => hf)

/-- A leaf follows its rules. -/
theorem follows_leaf (l : Leaf) : l.parser.Follows (Derives defs (.leaf l)) := by
  intro s
  cases hreading : l.reading s.rest with
  | none =>
    obtain ⟨f, -, hfailed⟩ := l.parser_reads.failed hreading
    rw [hfailed]
    exact Run.says_pure (.leaf_fail hreading)
  | some result =>
    rw [l.parser_reads.matched hreading]
    exact Run.says_pure (.leaf hreading)

/-- A tested character follows the rules. -/
theorem follows_satisfy {test : Char → Except Fault Bool} {expected : String} :
    (satisfy (fun c => Run.consult (.test c) (test c)) expected).Follows fun s verdict =>
      Derives defs (.satisfy test expected) s (verdict.map .ofChar) := by
  intro s
  cases hrest : s.rest with
  | nil =>
    rw [satisfy_of_nil hrest]
    exact Run.says_pure (.satisfy_end hrest)
  | cons c cs =>
    rw [satisfy_of_cons hrest]
    refine (Run.says_consult fun _ htest => htest).bind fun passed htest => ?_
    cases passed with
    | true => exact Run.says_pure (.satisfy hrest htest)
    | false => exact Run.says_pure (.satisfy_fail hrest htest)

/-! ### Sequences, choices and options -/

section Parts

variable {edge : Option String → Target Description → Parser Value}

/-- A sequence follows the rules if its parts do. -/
theorem follows_sequence {gs : List Grammar}
    (h : ∀ g ∈ gs, (g.parser edge).Follows (Derives defs g)) :
    (sequence (gs.map (Grammar.parser edge))).Follows fun s verdict =>
      Derives defs (.sequence gs) s (verdict.map .tuple) := by
  induction gs with
  | nil => exact fun s => Run.says_pure .sequence_nil
  | cons g gs ih =>
    intro s
    have hlater := ih fun g' hg' => h g' (List.mem_cons_of_mem _ hg')
    refine (h g List.mem_cons_self s).ifMatched (fun m hm => ?_) (fun _ hf => .sequence_first hf)
    exact (hlater m.rest).ifMatched (fun ms hms => Run.says_pure (.sequence_cons hm hms))
      (fun _ hf => .sequence_later hm hf)

/-- A choice follows every relation that takes the first success. -/
theorem follows_choice {ι : Type} {exhausted : Nat → Nat → Event} {parse : ι → Parser Value}
    (rule : ι → Cursor → Verdict Value → Prop) (choose : List ι → Cursor → Verdict Value → Prop)
    (hnil : ∀ s, choose [] s .fail)
    (hfirst : ∀ {i is s value t}, rule i s (.success value t) →
      choose (i :: is) s (.success value t))
    (hlater : ∀ {i is s verdict}, rule i s .fail → choose is s verdict → choose (i :: is) s verdict)
    {items : List ι} (h : ∀ i ∈ items, (parse i).Follows (rule i)) :
    (choice exhausted (items.map parse)).Follows (choose items) := by
  intro s
  have hattempts : (firstMatch (items.map parse) s).Says Event.IsInterruption fun
      | .ok m => choose items s (.success m.value m.rest)
      | .error _ => choose items s .fail := by
    induction items with
    | nil => exact Run.says_pure (hnil s)
    | cons i items ih =>
      refine (h i List.mem_cons_self s).bind fun outcome houtcome => ?_
      cases outcome with
      | matched m => exact Run.says_pure (hfirst houtcome)
      | failed f =>
        refine (ih fun j hj => h j (List.mem_cons_of_mem _ hj)).bind fun result hresult => ?_
        cases result with
        | ok m => exact Run.says_pure (hlater houtcome hresult)
        | error failures => exact Run.says_pure (hlater houtcome hresult)
  refine hattempts.bind fun result hresult => ?_
  cases result with
  | ok m => exact Run.says_pure hresult
  | error failures => exact (Run.says_emit trivial).bind fun _ (_ : True) => Run.says_pure hresult

variable {g : Grammar}

/-- An option follows the rules if its parser does. -/
theorem follows_optional {parser : Parser Value} (h : parser.Follows (Derives defs g))
    (default : Value) : (optional parser default).Follows (Derives defs (.optional g default)) := by
  intro s
  refine (h s).bind fun outcome houtcome => ?_
  cases outcome with
  | matched m => exact Run.says_pure (.optional houtcome)
  | failed f => exact Run.says_pure (.optional_default houtcome)

/-! ### Repetitions -/

/-- Repeated attempts that are not interrupted come to what the rules derive for a repetition. -/
theorem says_repeatFrom {parser : Parser Value} (h : parser.Follows (Derives defs g))
    (attempts : Nat) (s : Cursor) :
    (repeatFrom parser attempts s).Says Event.IsInterruption fun result =>
      Derives defs (.many g) s (.success (.list result.1) result.2) := by
  induction attempts generalizing s with
  | zero => exact Run.says_of_error rfl
  | succ attempts ih =>
    refine (h s).bind fun outcome houtcome => ?_
    cases outcome with
    | failed f => exact Run.says_pure (.many_fail houtcome)
    | matched m =>
      by_cases hpos : m.rest.pos = s.pos
      · simp only [if_pos hpos]
        exact (Run.says_emit trivial).bind fun _ (_ : True) =>
          Run.says_pure (.many_empty houtcome hpos)
      · simp only [if_neg hpos]
        exact (ih m.rest).bind fun _ hresult => Run.says_pure (.many_more houtcome hpos hresult)

/-- A repetition follows the rules if its parser does. -/
theorem follows_many {parser : Parser Value} (h : parser.Follows (Derives defs g)) :
    (many parser).Follows fun s verdict => Derives defs (.many g) s (verdict.map .list) :=
  fun s => (says_repeatFrom h _ s).bind fun _ hresult => Run.says_pure hresult

/-- A repetition that must match follows the rules if its parser does. -/
theorem follows_many1 {parser : Parser Value} (h : parser.Follows (Derives defs g)) :
    (many1 parser).Follows fun s verdict => Derives defs (.many1 g) s (verdict.map .list) := by
  intro s
  refine (h s).ifMatched (fun m hm => ?_) (fun _ hf => .many1_fail hf)
  exact (says_repeatFrom h _ m.rest).bind fun _ hresult => Run.says_pure (.many1 hm hresult)

/-- Calling a function on the value follows the rules if the parser does. -/
theorem follows_mapRun {parser : Parser Value} {f : Value → Except Fault Value}
    (h : parser.Follows (Derives defs g)) :
    (mapRun parser fun value => Run.consult (.map value) (f value)).Follows
      (Derives defs (.map g f)) := by
  intro s
  refine (h s).ifMatched (fun m hm => ?_) (fun _ hf => .map_fail hf)
  exact (Run.says_consult fun _ hf => hf).bind fun _ hf => Run.says_pure (.map hm hf)

/-! ### Products -/

/-- Skipping blanks leads behind them, or nowhere if not asked to. -/
theorem says_skipBlanksIf (skips : Bool) (s : Cursor) :
    (skipBlanksIf skips s).Says Event.IsInterruption fun place => place = s.behindBlanks skips := by
  cases skips with
  | false => exact Run.says_pure rfl
  | true =>
    rw [skipBlanksIf, if_pos rfl, skipBlanks_eq]
    exact Run.says_pure rfl

/-- If rejecting a value raises no fault, it fails. -/
theorem says_reject {field : Option String} {value : Value} {s : Cursor}
    {P : Outcome α → Prop} (h : ∀ f, P (.failed f)) :
    (reject field value s : Run (Outcome α)).Says Event.IsInterruption P :=
  (Run.says_consult fun _ _ => trivial).bind fun f (_ : True) => Run.says_pure (h f)

/-- A step follows its rules if its parser does. -/
theorem follows_stepFields {step : Step (Except Fault) Grammar}
    (h : (step.parser.parser edge).Follows (Derives defs step.parser)) :
    (stepFields ⟨step.field, step.parser.parser edge, observedCheck step.check⟩).Follows
      (DerivesStep defs step) := by
  intro s
  obtain ⟨field, part, check⟩ := step
  refine (h s).ifMatched (fun m hm => ?_) (fun _ hf => .part_fail hf)
  have hcheck : (accepts ⟨field, part.parser edge, observedCheck check⟩ m.value).Says
      Event.IsInterruption fun accepted => Step.Judges ⟨field, part, check⟩ m.value accepted := by
    cases check with
    | none => exact Run.says_pure rfl
    | some check => exact Run.says_consult fun _ haccepted => haccepted
  refine hcheck.bind fun accepted haccepted => ?_
  cases accepted with
  | true => exact Run.says_pure (.accepted hm haccepted)
  | false => exact says_reject fun _ => .rejected hm haccepted

/-- Steps with blanks before each of them follow the rules if their parsers do. -/
theorem follows_laterFields {steps : List (Step (Except Fault) Grammar)} (skips : Bool)
    (h : ∀ step ∈ steps, (step.parser.parser edge).Follows (Derives defs step.parser)) :
    (laterFields skips (stepParsers edge steps)).Follows (DerivesSteps defs skips skips steps) := by
  rw [stepParsers_eq_map]
  induction steps with
  | nil => exact fun s => Run.says_pure .nil
  | cons step steps ih =>
    intro s
    have hlater := ih fun step' hstep' => h step' (List.mem_cons_of_mem _ hstep')
    refine (says_skipBlanksIf skips s).bind fun place hplace => ?_
    subst hplace
    refine (follows_stepFields (h step List.mem_cons_self) _).ifMatched (fun m hm => ?_)
      (fun _ hf => .first_fail hf)
    exact (hlater m.rest).ifMatched (fun ms hms => Run.says_pure (.cons hm hms))
      (fun _ hf => .later_fail hm hf)

/-- The steps of a product follow the rules if their parsers do. -/
theorem follows_fields {steps : List (Step (Except Fault) Grammar)} (skips : Bool)
    (h : ∀ step ∈ steps, (step.parser.parser edge).Follows (Derives defs step.parser)) :
    (fields skips (stepParsers edge steps)).Follows (DerivesSteps defs skips false steps) := by
  cases steps with
  | nil => exact fun s => Run.says_pure .nil
  | cons step steps =>
    intro s
    have hlater := follows_laterFields skips fun step' hstep' =>
      h step' (List.mem_cons_of_mem _ hstep')
    refine (follows_stepFields (h step List.mem_cons_self) s).ifMatched (fun m hm => ?_)
      (fun _ hf => .first_fail hf)
    exact (hlater m.rest).ifMatched (fun ms hms => Run.says_pure (.cons hm hms))
      (fun _ hf => .later_fail hm hf)

/-- A product follows its rules if its steps do. -/
theorem follows_product {p : Product (Except Fault) Grammar}
    (h : ∀ step ∈ p.steps, (step.parser.parser edge).Follows (Derives defs step.parser)) :
    (product (productParser edge p)).Follows (Derives defs (.product p)) := by
  intro s
  obtain ⟨build, steps, skipsBetween, skipsAround⟩ := p
  refine (says_skipBlanksIf skipsAround s).bind fun place hplace => ?_
  subst hplace
  refine (follows_fields skipsBetween h _).ifMatched (fun m hm => ?_) (fun _ hf => .product_fail hf)
  refine (says_skipBlanksIf skipsAround m.rest).bind fun rest hrest => ?_
  subst hrest
  exact (Run.says_consult fun _ hbuild => hbuild).bind fun _ hbuild =>
    Run.says_pure (.product hm hbuild)

/-- A variant follows its rules if its steps do. -/
theorem follows_variant {v : Variant (Except Fault) Grammar}
    (h : ∀ step ∈ v.product.steps, (step.parser.parser edge).Follows (Derives defs step.parser)) :
    (variant (variantParser edge v)).Follows (Derives defs (.variant v)) := by
  intro s
  obtain ⟨name, p⟩ := v
  exact (follows_product h s).ifMatched (fun _ hm => Run.says_pure (.variant hm))
    (fun _ hf => .variant hf)

end Parts

end Parser

end TextGrammar
