import TextGrammar.Proofs.Parser.Events

/-!
# Matches without refused attempts

A refused attempt is a failure like any other one, so an option, a repetition or a later
alternative may hide it behind a match. Where none of them does, matches are made without
any refused attempt: this holds of a combination of parsers if it holds of its parts.
-/

namespace TextGrammar

/-- The parser has matched. -/
def Outcome.IsMatched {α : Type} : Outcome α → Prop
  | .matched _ => True
  | .failed _ => False

namespace Run

variable {α β : Type} {P : α → Prop} {Q : β → Prop}

/-- An answer with a property is only given if no attempt was refused. -/
def Unrefused (run : Run α) (P : α → Prop) : Prop :=
  ∀ a, run.answer = .ok a → P a → run.Avoids Event.IsRefusal

/-- Where no attempt is refused, none is before any answer. -/
theorem Avoids.unrefused {run : Run α} (h : run.Avoids Event.IsRefusal) : run.Unrefused P :=
  fun _ _ _ => h

/-- A run that does nothing refuses no attempt. -/
theorem unrefused_pure (a : α) : (Run.pure a).Unrefused P := (avoids_pure a).unrefused

/-- A failure is no match, so nothing is asked of the attempts before it. -/
theorem unrefused_of_failed {run : Run (Outcome α)} {f : Failure}
    (h : run.answer = .ok (.failed f)) : run.Unrefused Outcome.IsMatched := by
  intro outcome hanswer hmatched
  obtain rfl := Except.ok.inj (h.symm.trans hanswer)
  exact hmatched.elim

/-- One run after another one is given no answer over a refused attempt if the first one is not. -/
theorem Unrefused.bind {run : Run α} {next : α → Run β} (h : run.Unrefused P)
    (hnext : ∀ a, run.answer = .ok a → (next a).Unrefused Q)
    (hfirst : ∀ a b, (next a).answer = .ok b → Q b → P a) : (run.bind next).Unrefused Q := by
  intro b hb hQ
  cases hanswer : run.answer with
  | error e =>
    rw [bind_of_error hanswer] at hb
    cases hb
  | ok a =>
    rw [bind_of_ok hanswer] at hb
    apply (h a hanswer (hfirst a b hb hQ)).bind
    intro a' ha'
    obtain rfl : a = a' := Except.ok.inj (hanswer.symm.trans ha')
    exact hnext a hanswer b hb hQ

/-- Behind a run without refused attempts only those that follow count. -/
theorem Avoids.bind_unrefused {run : Run α} {next : α → Run β} (h : run.Avoids Event.IsRefusal)
    (hnext : ∀ a, run.answer = .ok a → (next a).Unrefused Q) : (run.bind next).Unrefused Q :=
  (h.unrefused (P := fun _ => True)).bind hnext fun _ _ _ _ => trivial

/-- Going on with a match makes matches without refused attempts if the attempt and what follows do.
-/
theorem Unrefused.ifMatched {run : Run (Outcome α)} {next : Match α → Run (Outcome β)}
    (h : run.Unrefused Outcome.IsMatched) (hnext : ∀ m, (next m).Unrefused Outcome.IsMatched) :
    (run.ifMatched next).Unrefused Outcome.IsMatched := by
  refine h.bind (fun outcome _ => ?_) fun outcome answer hanswer hmatched => ?_
  · cases outcome with
    | matched m => exact hnext m
    | failed f => exact unrefused_pure _
  · cases outcome with
    | matched m => trivial
    | failed f =>
      obtain rfl := Except.ok.inj hanswer
      exact hmatched

end Run

namespace Parser

variable {α β ι : Type} {parser : Parser α}

/-- A match is only made if no attempt was refused. -/
def EarnsMatches (parser : Parser α) : Prop := ∀ s, (parser s).Unrefused Outcome.IsMatched

/-- A parser answers, with a match or a failure, only if no attempt was refused. -/
def EarnsAnswers (parser : Parser α) : Prop := ∀ s, (parser s).Unrefused fun _ => True

/-- A parser answers without refused attempts if its matches and its failures come about without
them. -/
theorem EarnsMatches.answers (h : parser.EarnsMatches)
    (hfailed : ∀ s f, (parser s).answer = .ok (.failed f) → (parser s).Avoids Event.IsRefusal) :
    parser.EarnsAnswers := by
  intro s outcome hanswer _
  cases outcome with
  | matched m => exact h s _ hanswer trivial
  | failed f => exact hfailed s f hanswer

/-- Changing the value refuses no attempt. -/
theorem earnsMatches_map (h : parser.EarnsMatches) (f : α → β) : (map f parser).EarnsMatches :=
  fun s => (h s).ifMatched fun _ => Run.unrefused_pure _

/-- Calling a function on the value refuses no attempt. -/
theorem earnsMatches_mapRun {f : α → Run β} (h : parser.EarnsMatches)
    (hf : ∀ a, (f a).Avoids Event.IsRefusal) : (mapRun parser f).EarnsMatches :=
  fun s => (h s).ifMatched fun m =>
    ((hf m.value).bind fun _ _ => Run.avoids_pure _).unrefused

/-- A tag refuses no attempt. -/
theorem earnsMatches_retagged (h : parser.EarnsMatches) (tag : Option String) :
    (retagged tag parser).EarnsMatches :=
  fun s => (h s).ifMatched fun _ => Run.unrefused_pure _

/-- A probe refuses no attempt. -/
theorem earnsMatches_probed (h : parser.EarnsMatches) (label : String) :
    (probed label parser).EarnsMatches := by
  intro s
  exact (Run.avoids_emit id).bind_unrefused fun _ _ => h s

/-- An option makes its matches without refused attempts if its parser makes all its answers without
any. -/
theorem earnsMatches_optional (h : parser.EarnsAnswers) (default : α) :
    (optional parser default).EarnsMatches := by
  intro s
  refine (h s).bind (fun outcome _ => ?_) fun _ _ _ _ => trivial
  cases outcome <;> exact Run.unrefused_pure _

/-- A refused attempt never matches. -/
theorem earnsMatches_refused : (refused : Parser α).EarnsMatches :=
  fun _ => Run.unrefused_of_failed rfl

/-! ### Lists of parts -/

section Lists

variable {parse : ι → Parser α} {items : List ι}

/-- A sequence makes its matches without refused attempts if its parts do. -/
theorem earnsMatches_sequence (h : ∀ i ∈ items, (parse i).EarnsMatches) :
    (sequence (items.map parse)).EarnsMatches := by
  induction items with
  | nil => exact fun _ => Run.unrefused_pure _
  | cons i items ih =>
    intro s
    have hlater := ih fun j hj => h j (List.mem_cons_of_mem _ hj)
    refine (h i List.mem_cons_self s).ifMatched fun m => ?_
    exact (hlater m.rest).ifMatched fun _ => Run.unrefused_pure _

/-- The first match of some parsers is that of the first one, or it has failed. -/
theorem answer_of_firstMatch {parsers : List (Parser α)} {s : Cursor} {m : Match α}
    (h : (firstMatch (parser :: parsers) s).answer = .ok (.ok m)) :
    (parser s).answer = .ok (.matched m) ∨
      (∃ f, (parser s).answer = .ok (.failed f)) ∧ (firstMatch parsers s).answer = .ok (.ok m) := by
  rw [firstMatch] at h
  cases hanswer : (parser s).answer with
  | error e =>
    rw [Run.bind_of_error hanswer] at h
    cases h
  | ok outcome =>
    rw [Run.bind_of_ok hanswer] at h
    cases outcome with
    | matched m' =>
      obtain rfl := Except.ok.inj (Except.ok.inj h)
      exact .inl rfl
    | failed f =>
      refine .inr ⟨⟨f, rfl⟩, ?_⟩
      cases hlater : (firstMatch parsers s).answer with
      | error e =>
        simp only [Run.bind_of_error hlater] at h
        cases h
      | ok result =>
        simp only [Run.bind_of_ok hlater] at h
        cases result with
        | error failures => cases Except.ok.inj h
        | ok m' => exact congrArg Except.ok (Except.ok.inj h)

/-- The first match is that of one of the parsers. -/
theorem exists_of_firstMatch {s : Cursor} {m : Match α}
    (h : (firstMatch (items.map parse) s).answer = .ok (.ok m)) :
    ∃ i ∈ items, (parse i s).answer = .ok (.matched m) := by
  induction items with
  | nil => cases Except.ok.inj h
  | cons i items ih =>
    rcases answer_of_firstMatch h with hmatched | ⟨-, hlater⟩
    · exact ⟨i, List.mem_cons_self, hmatched⟩
    · obtain ⟨j, hj, hmatched⟩ := ih hlater
      exact ⟨j, List.mem_cons_of_mem _ hj, hmatched⟩

/-- The first match is found without refused attempts if no attempt is refused in front of a match.
-/
theorem unrefused_firstMatch {s : Cursor} (h : ∀ i ∈ items, (parse i).EarnsMatches)
    (hearlier : items.Pairwise fun i j => ∀ s m, (parse j s).answer = .ok (.matched m) →
      (parse i s).Avoids Event.IsRefusal) :
    (firstMatch (items.map parse) s).Unrefused fun result => ∃ m, result = .ok m := by
  induction items with
  | nil => exact Run.unrefused_pure _
  | cons i items ih =>
    obtain ⟨hi, hitems⟩ := List.pairwise_cons.mp hearlier
    rintro _ hanswer ⟨m, rfl⟩
    rcases answer_of_firstMatch hanswer with hmatched | ⟨⟨f, hfailed⟩, hlater⟩
    · apply (h i List.mem_cons_self s _ hmatched trivial).bind
      intro outcome houtcome
      obtain rfl := Except.ok.inj (hmatched.symm.trans houtcome)
      exact Run.avoids_pure _
    · obtain ⟨j, hj, hmatched⟩ := exists_of_firstMatch hlater
      have hrest := ih (fun k hk => h k (List.mem_cons_of_mem _ hk)) hitems _ hlater ⟨m, rfl⟩
      apply (hi j hj s m hmatched).bind
      intro outcome houtcome
      obtain rfl := Except.ok.inj (hfailed.symm.trans houtcome)
      apply hrest.bind
      intro result _
      cases result <;> exact Run.avoids_pure _

/-- A choice makes its matches without refused attempts if its alternatives do, and if no
alternative is refused an attempt where a later one matches. -/
theorem earnsMatches_choice {exhausted : Nat → Nat → Event}
    (h : ∀ i ∈ items, (parse i).EarnsMatches)
    (hearlier : items.Pairwise fun i j => ∀ s m, (parse j s).answer = .ok (.matched m) →
      (parse i s).Avoids Event.IsRefusal) :
    (choice exhausted (items.map parse)).EarnsMatches := by
  intro s
  refine (unrefused_firstMatch h hearlier).bind (fun result _ => ?_)
    fun result _ hanswer hmatched => ?_
  · cases result with
    | ok m => exact Run.unrefused_pure _
    | error failures => exact Run.unrefused_of_failed rfl
  · cases result with
    | ok m => exact ⟨m, rfl⟩
    | error failures =>
      obtain rfl := Except.ok.inj hanswer
      exact hmatched.elim

end Lists

/-! ### Repetitions -/

/-- Repeated attempts refuse none if the parser makes all its answers without refused attempts. -/
theorem unrefused_repeatFrom (h : parser.EarnsAnswers) (attempts : Nat) (s : Cursor) :
    (repeatFrom parser attempts s).Unrefused fun _ => True := by
  induction attempts generalizing s with
  | zero => exact (Run.avoids_fault _).unrefused
  | succ attempts ih =>
    refine (h s).bind (fun outcome _ => ?_) fun _ _ _ _ => trivial
    cases outcome with
    | failed f => exact Run.unrefused_pure _
    | matched m =>
      by_cases hpos : m.rest.pos = s.pos
      · simp only [if_pos hpos]
        exact ((Run.avoids_emit id).bind fun _ _ => Run.avoids_pure _).unrefused
      · simp only [if_neg hpos]
        exact (ih m.rest).bind (fun _ _ => Run.unrefused_pure _) fun _ _ _ _ => trivial

/-- A repetition makes its matches without refused attempts if its parser makes all its answers
without any. -/
theorem earnsMatches_many (h : parser.EarnsAnswers) : (many parser).EarnsMatches :=
  fun s => (unrefused_repeatFrom h _ s).bind (fun _ _ => Run.unrefused_pure _)
    fun _ _ _ _ => trivial

/-- A repetition that must match makes its matches without refused attempts if its parser makes all
its answers without any. -/
theorem earnsMatches_many1 (h : parser.EarnsAnswers) : (many1 parser).EarnsMatches := by
  intro s
  have hfirst : (parser s).Unrefused Outcome.IsMatched := fun outcome hanswer _ =>
    h s outcome hanswer trivial
  refine hfirst.ifMatched fun m => ?_
  exact (unrefused_repeatFrom h _ m.rest).bind (fun _ _ => Run.unrefused_pure _)
    fun _ _ _ _ => trivial

/-! ### Products -/

/-- A step makes its matches without refused attempts if its parser does. -/
theorem earnsMatches_stepFields {step : Step Run (Parser Value)}
    (h : step.parser.EarnsMatches) (hcheck : ∀ value, (accepts step value).Avoids Event.IsRefusal) :
    (stepFields step).EarnsMatches := by
  refine fun s => (h s).ifMatched fun m => ((hcheck m.value).bind fun accepted _ => ?_).unrefused
  cases accepted with
  | true => exact Run.avoids_pure _
  | false => exact avoids_reject step.field m.value s

section Steps

variable {step : ι → Step Run (Parser Value)} {items : List ι}

/-- Steps make their matches without refused attempts if each of them does. -/
theorem earnsMatches_laterFields (skips : Bool)
    (h : ∀ i ∈ items, (stepFields (step i)).EarnsMatches) :
    (laterFields skips (items.map step)).EarnsMatches := by
  induction items with
  | nil => exact fun _ => Run.unrefused_pure _
  | cons i items ih =>
    intro s
    have hlater := ih fun j hj => h j (List.mem_cons_of_mem _ hj)
    refine (avoids_skipBlanksIf skips s).bind_unrefused fun place _ => ?_
    refine (h i List.mem_cons_self place).ifMatched fun m => ?_
    exact (hlater m.rest).ifMatched fun _ => Run.unrefused_pure _

/-- A product makes its matches without refused attempts if its steps do. -/
theorem earnsMatches_product {build : List (String × Value) → Run Value}
    {skipsBetween skipsAround : Bool} (hbuild : ∀ fields, (build fields).Avoids Event.IsRefusal)
    (h : ∀ i ∈ items, (stepFields (step i)).EarnsMatches) :
    (product ⟨build, items.map step, skipsBetween, skipsAround⟩).EarnsMatches := by
  have hfields : (fields skipsBetween (items.map step)).EarnsMatches := by
    intro s
    cases items with
    | nil => exact Run.unrefused_pure _
    | cons i items =>
      have hlater := earnsMatches_laterFields skipsBetween fun j hj =>
        h j (List.mem_cons_of_mem _ hj)
      refine (h i List.mem_cons_self s).ifMatched fun m => ?_
      exact (hlater m.rest).ifMatched fun _ => Run.unrefused_pure _
  intro s
  refine (avoids_skipBlanksIf skipsAround s).bind_unrefused fun place _ => ?_
  refine (hfields place).ifMatched fun m => ?_
  refine ((avoids_skipBlanksIf skipsAround m.rest).bind fun rest _ => ?_).unrefused
  exact (hbuild m.value).bind fun _ _ => Run.avoids_pure _

end Steps

/-! ### Edges -/

/-- A match behind an edge is one of what the edge leads to. -/
theorem earnsMatches_edge {parser : Parser Value} (h : parser.EarnsMatches) :
    (edge parser).EarnsMatches := by
  intro s outcome hanswer hmatched
  cases hinside : (parser s).answer with
  | ok inner =>
    simp only [edge, hinside] at hanswer
    obtain rfl := Except.ok.inj hanswer
    cases inner with
    | matched m => exact avoids_edge (h s _ hinside trivial)
    | failed f => exact hmatched.elim
  | error e =>
    simp only [edge, hinside] at hanswer
    split at hanswer
    · obtain rfl := Except.ok.inj hanswer
      exact hmatched.elim
    · cases hanswer

end Parser

end TextGrammar
