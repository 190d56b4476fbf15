import TextGrammar.Parser.Combinators
import TextGrammar.Parser.Product
import TextGrammar.Proofs.Leaf.Reading
import TextGrammar.Proofs.Run.Relation

/-!
# Related parsers

Every combination of parsers passes a relation between runs on from its parts. What the
combinations call besides their parts, such as checks and builders, must be related to
itself; what they do by themselves is.
-/

namespace TextGrammar.Parser

variable {α β ι : Type} {R : RunRelation} {parser parser' : Parser α}

/-- A parser that does what a reading says comes to no edge. -/
theorem Reads.related {reading : Reading α} (h : parser.Reads reading) :
    R.Relates parser parser := by
  intro s
  cases hreading : reading s.rest with
  | none =>
    obtain ⟨f, -, hfailed⟩ := h.failed hreading
    rw [hfailed]
    exact R.pure _
  | some result =>
    rw [h.matched hreading]
    exact R.pure _

/-- Tested characters are related if the tests are. -/
theorem related_satisfy {test test' : Char → Run Bool} {expected : String}
    (htest : ∀ c, R.Holds (test c) (test' c)) :
    R.Relates (satisfy test expected) (satisfy test' expected) := by
  intro s
  cases hrest : s.rest with
  | nil =>
    rw [satisfy_of_nil hrest, satisfy_of_nil hrest]
    exact R.pure _
  | cons c cs =>
    rw [satisfy_of_cons hrest, satisfy_of_cons hrest]
    apply R.bind (htest c)
    intro passed _
    cases passed <;> exact R.pure _

/-- Changing values relates parsers that are related. -/
theorem related_map (h : R.Relates parser parser') (f : α → β) :
    R.Relates (map f parser) (map f parser') :=
  fun s => R.ifMatched (h s) fun _ => R.pure _

/-- Calling a function on values relates parsers that are related, if the calls are related to
themselves. -/
theorem related_mapRun {f : α → Run β} (h : R.Relates parser parser')
    (hf : ∀ a, R.Holds (f a) (f a)) : R.Relates (mapRun parser f) (mapRun parser' f) :=
  fun s => R.ifMatched (h s) fun m => R.bind (hf m.value) fun _ _ => R.pure _

/-- Options of related parsers are related. -/
theorem related_optional (h : R.Relates parser parser') (default : α) :
    R.Relates (optional parser default) (optional parser' default) := by
  intro s
  apply R.bind (h s)
  intro outcome _
  cases outcome <;> exact R.pure _

/-- A tag keeps parsers related. -/
theorem related_retagged (h : R.Relates parser parser') (tag : Option String) :
    R.Relates (retagged tag parser) (retagged tag parser') :=
  fun s => R.ifMatched (h s) fun _ => R.pure _

/-- A probe keeps parsers related. -/
theorem related_probed (h : R.Relates parser parser') (label : String) :
    R.Relates (probed label parser) (probed label parser') :=
  fun s => R.bind (R.emit trivial) fun _ _ => h s

/-! ### Lists of parts -/

section Lists

variable {parse parse' : ι → Parser α} {items : List ι}

/-- Sequences of related parts are related. -/
theorem related_sequence (h : ∀ i ∈ items, R.Relates (parse i) (parse' i)) :
    R.Relates (sequence (items.map parse)) (sequence (items.map parse')) := by
  induction items with
  | nil => exact fun _ => R.pure _
  | cons i items ih =>
    intro s
    have hlater := ih fun j hj => h j (List.mem_cons_of_mem _ hj)
    apply R.ifMatched (h i List.mem_cons_self s)
    intro m
    exact R.ifMatched (hlater m.rest) fun _ => R.pure _

/-- Choices between related alternatives are related. -/
theorem related_choice {exhausted : Nat → Nat → Event}
    (hexhausted : ∀ count pos, (exhausted count pos).IsPlain)
    (h : ∀ i ∈ items, R.Relates (parse i) (parse' i)) :
    R.Relates (choice exhausted (items.map parse)) (choice exhausted (items.map parse')) := by
  intro s
  have hattempts :
      R.Holds (firstMatch (items.map parse) s) (firstMatch (items.map parse') s) := by
    induction items with
    | nil => exact R.pure _
    | cons i items ih =>
      apply R.bind (h i List.mem_cons_self s)
      intro outcome _
      cases outcome with
      | matched m => exact R.pure _
      | failed f =>
        apply R.bind (ih fun j hj => h j (List.mem_cons_of_mem _ hj))
        intro result _
        cases result <;> exact R.pure _
  apply R.bind hattempts
  intro result _
  cases result with
  | ok m => exact R.pure _
  | error failures => exact R.bind (R.emit (hexhausted _ _)) fun _ _ => R.pure _

end Lists

/-! ### Repetitions -/

/-- Repeated attempts of related parsers are related. -/
theorem related_repeatFrom (h : R.Relates parser parser') (attempts : Nat) (s : Cursor) :
    R.Holds (repeatFrom parser attempts s) (repeatFrom parser' attempts s) := by
  induction attempts generalizing s with
  | zero => exact R.endless _
  | succ attempts ih =>
    apply R.bind (h s)
    intro outcome _
    cases outcome with
    | failed f => exact R.pure _
    | matched m =>
      by_cases hpos : m.rest.pos = s.pos
      · simp only [if_pos hpos]
        exact R.bind (R.emit trivial) fun _ _ => R.pure _
      · simp only [if_neg hpos]
        exact R.bind (ih m.rest) fun _ _ => R.pure _

/-- Repetitions of related parsers are related. -/
theorem related_many (h : R.Relates parser parser') : R.Relates (many parser) (many parser') :=
  fun s => R.bind (related_repeatFrom h _ s) fun _ _ => R.pure _

/-- Repetitions that must match are related if their parsers are. -/
theorem related_many1 (h : R.Relates parser parser') :
    R.Relates (many1 parser) (many1 parser') :=
  fun s => R.ifMatched (h s) fun m => R.bind (related_repeatFrom h _ m.rest) fun _ _ => R.pure _

/-! ### Products -/

/-- Skipping blanks comes to no edge. -/
theorem related_skipBlanksIf (skips : Bool) (s : Cursor) :
    R.Holds (skipBlanksIf skips s) (skipBlanksIf skips s) := by
  cases skips with
  | false => exact R.pure _
  | true =>
    rw [skipBlanksIf, if_pos rfl, skipBlanks_eq]
    exact R.pure _

/-- Rejecting a value is a call by which the value is shown. -/
theorem related_reject {field : Option String} {value : Value}
    (hshow : value.isWritable = false → R.Admits (.show value) .tooManyDigits) :
    R.Relates (reject field value : Parser α) (reject field value) := by
  refine fun s => R.bind (R.consult _ fun e he => ?_) fun _ _ => R.pure _
  obtain ⟨hwritable, rfl⟩ := Failure.eq_of_rejected? he
  exact hshow hwritable

/-- Steps with one check are related if their parsers are, and if the faults of checking and showing
values are admitted. -/
theorem related_stepFields {step step' : Step Run (Parser Value)}
    (hfield : step'.field = step.field) (hcheck : step'.check = step.check)
    (haccepts : ∀ value, R.Holds (accepts step value) (accepts step value))
    (hshow : ∀ value, (accepts step value).answer = .ok false → value.isWritable = false →
      R.Admits (.show value) .tooManyDigits)
    (h : R.Relates step.parser step'.parser) :
    R.Relates (stepFields step) (stepFields step') := by
  intro s
  obtain ⟨field, parser, check⟩ := step
  obtain ⟨field', parser', check'⟩ := step'
  subst hfield hcheck
  apply R.ifMatched (h s)
  intro m
  apply R.bind (haccepts m.value)
  intro accepted haccepted
  cases accepted with
  | true => exact R.pure _
  | false => exact related_reject (hshow m.value haccepted) s

section Steps

variable {step step' : ι → Step Run (Parser Value)} {items : List ι}

/-- Steps one behind the other are related if each of them is. -/
theorem related_laterFields (skips : Bool)
    (h : ∀ i ∈ items, R.Relates (stepFields (step i)) (stepFields (step' i))) :
    R.Relates (laterFields skips (items.map step)) (laterFields skips (items.map step')) := by
  induction items with
  | nil => exact fun _ => R.pure _
  | cons i items ih =>
    intro s
    have hlater := ih fun j hj => h j (List.mem_cons_of_mem _ hj)
    apply R.bind (related_skipBlanksIf skips s)
    intro place _
    apply R.ifMatched (h i List.mem_cons_self place)
    intro m
    exact R.ifMatched (hlater m.rest) fun _ => R.pure _

/-- Products with one builder are related if their steps are. -/
theorem related_product {build : List (String × Value) → Run Value}
    {skipsBetween skipsAround : Bool} (hbuild : ∀ fields, R.Holds (build fields) (build fields))
    (h : ∀ i ∈ items, R.Relates (stepFields (step i)) (stepFields (step' i))) :
    R.Relates (product ⟨build, items.map step, skipsBetween, skipsAround⟩)
      (product ⟨build, items.map step', skipsBetween, skipsAround⟩) := by
  have hfields : R.Relates (fields skipsBetween (items.map step))
      (fields skipsBetween (items.map step')) := by
    intro s
    cases items with
    | nil => exact R.pure _
    | cons i items =>
      have hlater := related_laterFields skipsBetween fun j hj => h j (List.mem_cons_of_mem _ hj)
      apply R.ifMatched (h i List.mem_cons_self s)
      intro m
      exact R.ifMatched (hlater m.rest) fun _ => R.pure _
  intro s
  apply R.bind (related_skipBlanksIf skipsAround s)
  intro place _
  apply R.ifMatched (hfields place)
  intro m
  apply R.bind (related_skipBlanksIf skipsAround m.rest)
  intro rest _
  exact R.bind (hbuild m.value) fun _ _ => R.pure _

end Steps

end TextGrammar.Parser
