import TextGrammar.Proofs.Grammar.Reach
import TextGrammar.Proofs.Leaf.Table

/-!
# Grammars as parsing expressions

The meaning of grammars without parsers, as a relation between a grammar, a cursor and what
comes of an attempt: success with a value at a cursor further along, or failure. The rules
are those of parsing expression grammars. A sequence goes on where the part before it ended,
a choice takes the first success, a repetition is greedy and ends before a part that fails
or reads nothing, a check filters the values of a step, and an edge is a nonterminal that
stands for what it is resolved to. The rules contradict each other nowhere.
-/

namespace TextGrammar

/-- What comes of an attempt: a value and the cursor behind it, or nothing. -/
inductive Verdict (α : Type) where
  | success (value : α) (rest : Cursor)
  | fail

/-- The cursor behind the blanks at a cursor, if they are to be skipped. -/
def Cursor.behindBlanks (s : Cursor) (skips : Bool) : Cursor := if skips then s.afterBlanks else s

/-- What a check says of a value. Without one every value is fine. -/
def Step.Judges (step : Step (Except Fault) Grammar) (value : Value) (accepted : Bool) : Prop :=
  match step.check with
  | none => accepted = true
  | some check => check value = .ok accepted

mutual

/-- What comes of a grammar at a cursor. -/
inductive Derives (defs : Definitions) : Grammar → Cursor → Verdict Value → Prop
  | leaf {l : Leaf} {s : Cursor} {value : Value} {length : Nat}
      (h : l.reading s.rest = some (value, length)) :
      Derives defs (.leaf l) s (.success value (s.skip length))
  | leaf_fail {l : Leaf} {s : Cursor} (h : l.reading s.rest = none) : Derives defs (.leaf l) s .fail
  | satisfy {test : Char → Except Fault Bool} {expected : String} {s : Cursor} {c : Char}
      {cs : List Char} (hrest : s.rest = c :: cs) (htest : test c = .ok true) :
      Derives defs (.satisfy test expected) s (.success (.ofChar c) (s.skip 1))
  | satisfy_fail {test : Char → Except Fault Bool} {expected : String} {s : Cursor} {c : Char}
      {cs : List Char} (hrest : s.rest = c :: cs) (htest : test c = .ok false) :
      Derives defs (.satisfy test expected) s .fail
  | satisfy_end {test : Char → Except Fault Bool} {expected : String} {s : Cursor}
      (hrest : s.rest = []) : Derives defs (.satisfy test expected) s .fail
  | sequence_nil {s : Cursor} : Derives defs (.sequence []) s (.success (.tuple []) s)
  | sequence_cons {g : Grammar} {gs : List Grammar} {s t u : Cursor} {value : Value}
      {values : List Value} (hfirst : Derives defs g s (.success value t))
      (hlater : Derives defs (.sequence gs) t (.success (.tuple values) u)) :
      Derives defs (.sequence (g :: gs)) s (.success (.tuple (value :: values)) u)
  | sequence_first {g : Grammar} {gs : List Grammar} {s : Cursor}
      (hfirst : Derives defs g s .fail) : Derives defs (.sequence (g :: gs)) s .fail
  | sequence_later {g : Grammar} {gs : List Grammar} {s t : Cursor} {value : Value}
      (hfirst : Derives defs g s (.success value t))
      (hlater : Derives defs (.sequence gs) t .fail) :
      Derives defs (.sequence (g :: gs)) s .fail
  | oneOf_nil {s : Cursor} : Derives defs (.oneOf []) s .fail
  | oneOf_first {g : Grammar} {gs : List Grammar} {s t : Cursor} {value : Value}
      (hfirst : Derives defs g s (.success value t)) :
      Derives defs (.oneOf (g :: gs)) s (.success value t)
  | oneOf_later {g : Grammar} {gs : List Grammar} {s : Cursor} {verdict : Verdict Value}
      (hfirst : Derives defs g s .fail) (hlater : Derives defs (.oneOf gs) s verdict) :
      Derives defs (.oneOf (g :: gs)) s verdict
  | optional {g : Grammar} {default : Value} {s t : Cursor} {value : Value}
      (h : Derives defs g s (.success value t)) :
      Derives defs (.optional g default) s (.success value t)
  | optional_default {g : Grammar} {default : Value} {s : Cursor} (h : Derives defs g s .fail) :
      Derives defs (.optional g default) s (.success default s)
  | many_fail {g : Grammar} {s : Cursor} (h : Derives defs g s .fail) :
      Derives defs (.many g) s (.success (.list []) s)
  | many_empty {g : Grammar} {s t : Cursor} {value : Value}
      (h : Derives defs g s (.success value t)) (hpos : t.pos = s.pos) :
      Derives defs (.many g) s (.success (.list []) s)
  | many_more {g : Grammar} {s t u : Cursor} {value : Value} {values : List Value}
      (hfirst : Derives defs g s (.success value t)) (hpos : t.pos ≠ s.pos)
      (hlater : Derives defs (.many g) t (.success (.list values) u)) :
      Derives defs (.many g) s (.success (.list (value :: values)) u)
  | many1_fail {g : Grammar} {s : Cursor} (h : Derives defs g s .fail) :
      Derives defs (.many1 g) s .fail
  | many1 {g : Grammar} {s t u : Cursor} {value : Value} {values : List Value}
      (hfirst : Derives defs g s (.success value t))
      (hlater : Derives defs (.many g) t (.success (.list values) u)) :
      Derives defs (.many1 g) s (.success (.list (value :: values)) u)
  | map {g : Grammar} {f : Value → Except Fault Value} {s t : Cursor} {value result : Value}
      (h : Derives defs g s (.success value t)) (hf : f value = .ok result) :
      Derives defs (.map g f) s (.success result t)
  | map_fail {g : Grammar} {f : Value → Except Fault Value} {s : Cursor}
      (h : Derives defs g s .fail) : Derives defs (.map g f) s .fail
  | product {p : Product (Except Fault) Grammar} {s t : Cursor} {fields : List (String × Value)}
      {value : Value}
      (h : DerivesSteps defs p.skipsBetween false p.steps (s.behindBlanks p.skipsAround)
        (.success fields t))
      (hbuild : p.build fields = .ok value) :
      Derives defs (.product p) s (.success value (t.behindBlanks p.skipsAround))
  | product_fail {p : Product (Except Fault) Grammar} {s : Cursor}
      (h : DerivesSteps defs p.skipsBetween false p.steps (s.behindBlanks p.skipsAround) .fail) :
      Derives defs (.product p) s .fail
  | variant {v : Variant (Except Fault) Grammar} {s : Cursor} {verdict : Verdict Value}
      (h : Derives defs (.product v.product) s verdict) : Derives defs (.variant v) s verdict
  | sum_nil {s : Cursor} : Derives defs (.sum []) s .fail
  | sum_first {v : Variant (Except Fault) Grammar} {vs : List (Variant (Except Fault) Grammar)}
      {s t : Cursor} {value : Value} (hfirst : Derives defs (.variant v) s (.success value t)) :
      Derives defs (.sum (v :: vs)) s (.success value t)
  | sum_later {v : Variant (Except Fault) Grammar} {vs : List (Variant (Except Fault) Grammar)}
      {s : Cursor} {verdict : Verdict Value} (hfirst : Derives defs (.variant v) s .fail)
      (hlater : Derives defs (.sum vs) s verdict) : Derives defs (.sum (v :: vs)) s verdict
  | edge {label : Option String} {target : Target Description} {g : Grammar} {s t : Cursor}
      {value : Value} (hresolve : target.resolve defs = .ok g)
      (h : Derives defs g s (.success value t)) :
      Derives defs (.edge label target) s (.success (.box value) t)
  | edge_fail {label : Option String} {target : Target Description} {g : Grammar} {s : Cursor}
      (hresolve : target.resolve defs = .ok g) (h : Derives defs g s .fail) :
      Derives defs (.edge label target) s .fail
  | probed {label : String} {g : Grammar} {s : Cursor} {verdict : Verdict Value}
      (h : Derives defs g s verdict) : Derives defs (.probed label g) s verdict
  | retagged {tag : Option String} {g : Grammar} {s : Cursor} {verdict : Verdict Value}
      (h : Derives defs g s verdict) : Derives defs (.retagged tag g) s verdict

/-- What comes of a step at a cursor. The value must pass the check. -/
inductive DerivesStep (defs : Definitions) : Step (Except Fault) Grammar → Cursor →
    Verdict (List (String × Value)) → Prop
  | accepted {step : Step (Except Fault) Grammar} {s t : Cursor} {value : Value}
      (hpart : Derives defs step.parser s (.success value t)) (hcheck : step.Judges value true) :
      DerivesStep defs step s (.success (Parser.captured step.field value) t)
  | rejected {step : Step (Except Fault) Grammar} {s t : Cursor} {value : Value}
      (hpart : Derives defs step.parser s (.success value t)) (hcheck : step.Judges value false) :
      DerivesStep defs step s .fail
  | part_fail {step : Step (Except Fault) Grammar} {s : Cursor}
      (hpart : Derives defs step.parser s .fail) : DerivesStep defs step s .fail

/-- What comes of steps at a cursor, with blanks skipped between them if asked to, and before them
if there is a step before. -/
inductive DerivesSteps (defs : Definitions) : Bool → Bool → List (Step (Except Fault) Grammar) →
    Cursor → Verdict (List (String × Value)) → Prop
  | nil {skips skipsBefore : Bool} {s : Cursor} :
      DerivesSteps defs skips skipsBefore [] s (.success [] s)
  | cons {skips skipsBefore : Bool} {step : Step (Except Fault) Grammar}
      {steps : List (Step (Except Fault) Grammar)} {s t u : Cursor}
      {fields others : List (String × Value)}
      (hfirst : DerivesStep defs step (s.behindBlanks skipsBefore) (.success fields t))
      (hlater : DerivesSteps defs skips skips steps t (.success others u)) :
      DerivesSteps defs skips skipsBefore (step :: steps) s (.success (fields ++ others) u)
  | first_fail {skips skipsBefore : Bool} {step : Step (Except Fault) Grammar}
      {steps : List (Step (Except Fault) Grammar)} {s : Cursor}
      (hfirst : DerivesStep defs step (s.behindBlanks skipsBefore) .fail) :
      DerivesSteps defs skips skipsBefore (step :: steps) s .fail
  | later_fail {skips skipsBefore : Bool} {step : Step (Except Fault) Grammar}
      {steps : List (Step (Except Fault) Grammar)} {s t : Cursor} {fields : List (String × Value)}
      (hfirst : DerivesStep defs step (s.behindBlanks skipsBefore) (.success fields t))
      (hlater : DerivesSteps defs skips skips steps t .fail) :
      DerivesSteps defs skips skipsBefore (step :: steps) s .fail

end

/-- A check says one thing of a value. -/
theorem Step.Judges.unique {step : Step (Except Fault) Grammar} {value : Value}
    {accepted accepted' : Bool} (h : step.Judges value accepted)
    (h' : step.Judges value accepted') : accepted = accepted' := by
  obtain ⟨field, part, check⟩ := step
  cases check with
  | none => exact Eq.trans h (Eq.symm h')
  | some check => exact Except.ok.inj (Eq.trans (Eq.symm h) h')

variable {defs : Definitions}

mutual

/-- The rules derive no two verdicts for one grammar at one cursor. -/
theorem Derives.unique :
    ∀ {g : Grammar} {s : Cursor} {verdict : Verdict Value}, Derives defs g s verdict →
      ∀ verdict', Derives defs g s verdict' → verdict = verdict'
  | _, _, _, .leaf hreading => by
    intro verdict' h'
    cases h' with
    | leaf hreading' =>
      cases hreading.symm.trans hreading'
      rfl
    | leaf_fail hreading' => cases hreading.symm.trans hreading'
  | _, _, _, .leaf_fail hreading => by
    intro verdict' h'
    cases h' with
    | leaf hreading' => cases hreading.symm.trans hreading'
    | leaf_fail _ => rfl
  | _, _, _, .satisfy hrest htest => by
    intro verdict' h'
    cases h' with
    | satisfy hrest' _ =>
      cases hrest.symm.trans hrest'
      rfl
    | satisfy_fail hrest' htest' =>
      cases hrest.symm.trans hrest'
      cases htest.symm.trans htest'
    | satisfy_end hrest' => cases hrest.symm.trans hrest'
  | _, _, _, .satisfy_fail hrest htest => by
    intro verdict' h'
    cases h' with
    | satisfy hrest' htest' =>
      cases hrest.symm.trans hrest'
      cases htest.symm.trans htest'
    | satisfy_fail _ _ | satisfy_end _ => rfl
  | _, _, _, .satisfy_end hrest => by
    intro verdict' h'
    cases h' with
    | satisfy hrest' _ => cases hrest.symm.trans hrest'
    | satisfy_fail _ _ | satisfy_end _ => rfl
  | _, _, _, .sequence_nil | _, _, _, .oneOf_nil | _, _, _, .sum_nil => by
    intro verdict' h'
    cases h'
    rfl
  | _, _, _, .sequence_cons hfirst hlater => by
    have ihfirst := hfirst.unique
    have ihlater := hlater.unique
    intro verdict' h'
    cases h' with
    | sequence_cons hfirst' hlater' =>
      cases ihfirst _ hfirst'
      cases ihlater _ hlater'
      rfl
    | sequence_first hfirst' => cases ihfirst _ hfirst'
    | sequence_later hfirst' hlater' =>
      cases ihfirst _ hfirst'
      cases ihlater _ hlater'
  | _, _, _, .sequence_first hfirst => by
    have ihfirst := hfirst.unique
    intro verdict' h'
    cases h' with
    | sequence_cons hfirst' _ => cases ihfirst _ hfirst'
    | sequence_first _ | sequence_later _ _ => rfl
  | _, _, _, .sequence_later hfirst hlater => by
    have ihfirst := hfirst.unique
    have ihlater := hlater.unique
    intro verdict' h'
    cases h' with
    | sequence_cons hfirst' hlater' =>
      cases ihfirst _ hfirst'
      cases ihlater _ hlater'
    | sequence_first _ | sequence_later _ _ => rfl
  | _, _, _, .oneOf_first hfirst => by
    have ihfirst := hfirst.unique
    intro verdict' h'
    cases h' with
    | oneOf_first hfirst' => exact ihfirst _ hfirst'
    | oneOf_later hfirst' _ => cases ihfirst _ hfirst'
  | _, _, _, .oneOf_later hfirst hlater => by
    have ihfirst := hfirst.unique
    have ihlater := hlater.unique
    intro verdict' h'
    cases h' with
    | oneOf_first hfirst' => cases ihfirst _ hfirst'
    | oneOf_later _ hlater' => exact ihlater _ hlater'
  | _, _, _, .optional hpart => by
    have ih := hpart.unique
    intro verdict' h'
    cases h' with
    | optional hpart' => exact ih _ hpart'
    | optional_default hpart' => cases ih _ hpart'
  | _, _, _, .optional_default hpart => by
    have ih := hpart.unique
    intro verdict' h'
    cases h' with
    | optional hpart' => cases ih _ hpart'
    | optional_default _ => rfl
  | _, _, _, .many_fail hpart => by
    have ih := hpart.unique
    intro verdict' h'
    cases h' with
    | many_fail _ | many_empty _ _ => rfl
    | many_more hpart' _ _ => cases ih _ hpart'
  | _, _, _, .many_empty hpart hpos => by
    have ih := hpart.unique
    intro verdict' h'
    -- whether a part read something decides between the end and one more round
    cases h' with
    | many_fail _ | many_empty _ _ => rfl
    | many_more hpart' hpos' _ =>
      cases ih _ hpart'
      exact absurd hpos hpos'
  | _, _, _, .many_more hfirst hpos hlater => by
    have ihfirst := hfirst.unique
    have ihlater := hlater.unique
    intro verdict' h'
    cases h' with
    | many_fail hpart' => cases ihfirst _ hpart'
    | many_empty hpart' hpos' =>
      cases ihfirst _ hpart'
      exact absurd hpos' hpos
    | many_more hfirst' _ hlater' =>
      cases ihfirst _ hfirst'
      cases ihlater _ hlater'
      rfl
  | _, _, _, .many1_fail hpart => by
    have ih := hpart.unique
    intro verdict' h'
    cases h' with
    | many1_fail _ => rfl
    | many1 hfirst' _ => cases ih _ hfirst'
  | _, _, _, .many1 hfirst hlater => by
    have ihfirst := hfirst.unique
    have ihlater := hlater.unique
    intro verdict' h'
    cases h' with
    | many1_fail hpart' => cases ihfirst _ hpart'
    | many1 hfirst' hlater' =>
      cases ihfirst _ hfirst'
      cases ihlater _ hlater'
      rfl
  | _, _, _, .map hpart hf => by
    have ih := hpart.unique
    intro verdict' h'
    cases h' with
    | map hpart' hf' =>
      cases ih _ hpart'
      cases hf.symm.trans hf'
      rfl
    | map_fail hpart' => cases ih _ hpart'
  | _, _, _, .map_fail hpart => by
    have ih := hpart.unique
    intro verdict' h'
    cases h' with
    | map hpart' _ => cases ih _ hpart'
    | map_fail _ => rfl
  | _, _, _, .product hsteps hbuild => by
    have ih := hsteps.unique
    intro verdict' h'
    cases h' with
    | product hsteps' hbuild' =>
      cases ih _ hsteps'
      cases hbuild.symm.trans hbuild'
      rfl
    | product_fail hsteps' => cases ih _ hsteps'
  | _, _, _, .product_fail hsteps => by
    have ih := hsteps.unique
    intro verdict' h'
    cases h' with
    | product hsteps' _ => cases ih _ hsteps'
    | product_fail _ => rfl
  | _, _, _, .variant hproduct => by
    have ih := hproduct.unique
    intro verdict' h'
    cases h' with
    | variant hproduct' => exact ih _ hproduct'
  | _, _, _, .sum_first hfirst => by
    have ihfirst := hfirst.unique
    intro verdict' h'
    cases h' with
    | sum_first hfirst' => exact ihfirst _ hfirst'
    | sum_later hfirst' _ => cases ihfirst _ hfirst'
  | _, _, _, .sum_later hfirst hlater => by
    have ihfirst := hfirst.unique
    have ihlater := hlater.unique
    intro verdict' h'
    cases h' with
    | sum_first hfirst' => cases ihfirst _ hfirst'
    | sum_later _ hlater' => exact ihlater _ hlater'
  | _, _, _, .edge hresolve hpart => by
    have ih := hpart.unique
    intro verdict' h'
    cases h' with
    | edge hresolve' hpart' =>
      cases hresolve.symm.trans hresolve'
      cases ih _ hpart'
      rfl
    | edge_fail hresolve' hpart' =>
      cases hresolve.symm.trans hresolve'
      cases ih _ hpart'
  | _, _, _, .edge_fail hresolve hpart => by
    have ih := hpart.unique
    intro verdict' h'
    cases h' with
    | edge hresolve' hpart' =>
      cases hresolve.symm.trans hresolve'
      cases ih _ hpart'
    | edge_fail _ _ => rfl
  | _, _, _, .probed hpart => by
    have ih := hpart.unique
    intro verdict' h'
    cases h' with
    | probed hpart' => exact ih _ hpart'
  | _, _, _, .retagged hpart => by
    have ih := hpart.unique
    intro verdict' h'
    cases h' with
    | retagged hpart' => exact ih _ hpart'

/-- Nor do they for a step. -/
theorem DerivesStep.unique :
    ∀ {step : Step (Except Fault) Grammar} {s : Cursor} {verdict : Verdict (List (String × Value))},
      DerivesStep defs step s verdict →
        ∀ verdict', DerivesStep defs step s verdict' → verdict = verdict'
  | _, _, _, .accepted hpart hcheck => by
    have ih := hpart.unique
    intro verdict' h'
    cases h' with
    | accepted hpart' _ =>
      cases ih _ hpart'
      rfl
    | rejected hpart' hcheck' =>
      cases ih _ hpart'
      cases hcheck.unique hcheck'
    | part_fail hpart' => cases ih _ hpart'
  | _, _, _, .rejected hpart hcheck => by
    have ih := hpart.unique
    intro verdict' h'
    cases h' with
    | accepted hpart' hcheck' =>
      cases ih _ hpart'
      cases hcheck.unique hcheck'
    | rejected _ _ | part_fail _ => rfl
  | _, _, _, .part_fail hpart => by
    have ih := hpart.unique
    intro verdict' h'
    cases h' with
    | accepted hpart' _ => cases ih _ hpart'
    | rejected _ _ | part_fail _ => rfl

/-- Nor do they for steps. -/
theorem DerivesSteps.unique :
    ∀ {skips skipsBefore : Bool} {steps : List (Step (Except Fault) Grammar)} {s : Cursor}
      {verdict : Verdict (List (String × Value))},
      DerivesSteps defs skips skipsBefore steps s verdict →
        ∀ verdict', DerivesSteps defs skips skipsBefore steps s verdict' → verdict = verdict'
  | _, _, _, _, _, .nil => by
    intro verdict' h'
    cases h'
    rfl
  | _, _, _, _, _, .cons hfirst hlater => by
    have ihfirst := hfirst.unique
    have ihlater := hlater.unique
    intro verdict' h'
    cases h' with
    | cons hfirst' hlater' =>
      cases ihfirst _ hfirst'
      cases ihlater _ hlater'
      rfl
    | first_fail hfirst' => cases ihfirst _ hfirst'
    | later_fail hfirst' hlater' =>
      cases ihfirst _ hfirst'
      cases ihlater _ hlater'
  | _, _, _, _, _, .first_fail hfirst => by
    have ihfirst := hfirst.unique
    intro verdict' h'
    cases h' with
    | cons hfirst' _ => cases ihfirst _ hfirst'
    | first_fail _ | later_fail _ _ => rfl
  | _, _, _, _, _, .later_fail hfirst hlater => by
    have ihfirst := hfirst.unique
    have ihlater := hlater.unique
    intro verdict' h'
    cases h' with
    | cons hfirst' hlater' =>
      cases ihfirst _ hfirst'
      cases ihlater _ hlater'
    | first_fail _ | later_fail _ _ => rfl

end

end TextGrammar
