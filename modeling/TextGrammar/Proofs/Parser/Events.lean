import TextGrammar.Proofs.Leaf.Reading

/-!
# Refused attempts of parsers

Behind a refused attempt a run no longer depends on the text alone. In a combination of parsers an
attempt is refused only if it is in one of the parts, at a cursor to which the combination comes:
one that its own cursor leads to, and behind which every part before has really read a character,
unless that part may match nothing.
-/

namespace TextGrammar

variable {α β ι : Type} {s : Cursor}

/-- The parts of a list before a part that is attempted where the whole list began. -/
def AttemptedAt (mayBeEmpty : ι → Prop) (before : List ι) (s t : Cursor) : Prop :=
  s.LeadsTo t ∧ (t.pos = s.pos → ∀ i ∈ before, mayBeEmpty i)

/-- The first part is attempted where the whole list is. -/
theorem AttemptedAt.refl {mayBeEmpty : ι → Prop} (s : Cursor) : AttemptedAt mayBeEmpty [] s s :=
  ⟨Cursor.LeadsTo.refl s, fun _ => by simp⟩

/-- Behind a match of one more part before it, a part is still attempted where it may be. -/
theorem AttemptedAt.cons {mayBeEmpty : ι → Prop} {i : ι} {before : List ι} {m : Match α}
    {t : Cursor} (hm : m.Advances s (mayBeEmpty i))
    (ht : AttemptedAt mayBeEmpty before m.rest t) : AttemptedAt mayBeEmpty (i :: before) s t := by
  obtain ⟨hleads, hempty⟩ := ht
  constructor
  · exact hm.leads.trans hleads
  · intro hpos
    have hfirst := hm.leads.pos_le
    have hsecond := hleads.pos_le
    rw [List.forall_mem_cons]
    exact ⟨hm.empty_of_pos_eq (by omega), hempty (by omega)⟩

/-- A part that may be attempted at a cursor may be attempted where an earlier one leads. -/
theorem AttemptedAt.of_leadsTo {mayBeEmpty : ι → Prop} {before : List ι} {t u : Cursor}
    (hst : s.LeadsTo t) (hu : AttemptedAt mayBeEmpty before t u) :
    AttemptedAt mayBeEmpty before s u := by
  obtain ⟨hleads, hempty⟩ := hu
  constructor
  · exact hst.trans hleads
  · intro hpos
    have hfirst := hst.pos_le
    have hsecond := hleads.pos_le
    exact hempty (by omega)

namespace Parser

variable {parser : Parser α} {empty : Prop}

/-- No attempt is refused by a parser that does what a reading says. -/
theorem Reads.avoids {reading : Reading α} (h : parser.Reads reading) (s : Cursor) :
    (parser s).Avoids Event.IsRefusal := by
  cases hreading : reading s.rest with
  | none =>
    obtain ⟨f, -, hfailed⟩ := h.failed hreading
    rw [hfailed]
    exact Run.avoids_pure _
  | some result =>
    rw [h.matched hreading]
    exact Run.avoids_pure _

/-- No attempt is refused by changing a value. -/
theorem avoids_map (h : (parser s).Avoids Event.IsRefusal) (f : α → β) :
    (map f parser s).Avoids Event.IsRefusal :=
  h.ifMatched fun _ _ => Run.avoids_pure _

/-- No attempt is refused by calling a function on a value if none is in the parser. -/
theorem avoids_mapRun {f : α → Run β} (h : (parser s).Avoids Event.IsRefusal)
    (hf : ∀ a, (f a).Avoids Event.IsRefusal) : (mapRun parser f s).Avoids Event.IsRefusal :=
  h.ifMatched fun m _ => (hf m.value).bind fun _ _ => Run.avoids_pure _

/-- No attempt is refused by testing a character. -/
theorem avoids_satisfy {test : Char → Run Bool} {expected : String}
    (htest : ∀ c, (test c).Avoids Event.IsRefusal) (s : Cursor) :
    (satisfy test expected s).Avoids Event.IsRefusal := by
  cases hrest : s.rest with
  | nil =>
    rw [satisfy_of_nil hrest]
    exact Run.avoids_pure _
  | cons c cs =>
    rw [satisfy_of_cons hrest]
    apply (htest c).bind
    intro passed _
    cases passed <;> exact Run.avoids_pure _

/-- No attempt is refused by skipping blanks. -/
theorem avoids_skipBlanksIf (skips : Bool) (s : Cursor) :
    (skipBlanksIf skips s).Avoids Event.IsRefusal := by
  cases skips with
  | false => exact Run.avoids_pure _
  | true =>
    rw [skipBlanksIf, if_pos rfl, skipBlanks_eq]
    exact Run.avoids_pure _

/-- No attempt is refused by a tag. -/
theorem avoids_retagged (h : (parser s).Avoids Event.IsRefusal) (tag : Option String) :
    (retagged tag parser s).Avoids Event.IsRefusal :=
  h.ifMatched fun _ _ => Run.avoids_pure _

/-- No attempt is refused by rejecting a value. -/
theorem avoids_reject (field : Option String) (value : Value) (s : Cursor) :
    (reject field value s : Run (Outcome α)).Avoids Event.IsRefusal :=
  (Run.avoids_refusal_consult _ _).bind fun _ _ => Run.avoids_pure _

/-- No attempt is refused in a step if none is in its parser. -/
theorem avoids_stepFields {step : Step Run (Parser Value)}
    (h : (step.parser s).Avoids Event.IsRefusal)
    (hcheck : ∀ value, (accepts step value).Avoids Event.IsRefusal) :
    (stepFields step s).Avoids Event.IsRefusal := by
  refine h.ifMatched fun m _ => (hcheck m.value).bind fun accepted _ => ?_
  cases accepted with
  | true => exact Run.avoids_pure _
  | false => exact avoids_reject step.field m.value s

/-! ### Parts one behind the other -/

section Lists

variable {parse : ι → Parser α} {step : ι → Step Run (Parser Value)} {mayBeEmpty : ι → Prop}
  {items : List ι}

/-- No attempt is refused in a sequence if none is in its parts, wherever they are attempted. -/
theorem avoids_sequence (hadvances : ∀ i ∈ items, (parse i).Advances (mayBeEmpty i))
    (h : ∀ before i after, items = before ++ i :: after →
      ∀ t, AttemptedAt mayBeEmpty before s t → (parse i t).Avoids Event.IsRefusal) :
    (sequence (items.map parse) s).Avoids Event.IsRefusal := by
  induction items generalizing s with
  | nil => exact Run.avoids_pure _
  | cons i items ih =>
    apply (h [] i items rfl s (.refl s)).ifMatched
    intro m hanswer
    have hm : m.Advances s (mayBeEmpty i) :=
      (hadvances i List.mem_cons_self s).of_ok hanswer
    have hlater : (sequence (items.map parse) m.rest).Avoids Event.IsRefusal := by
      refine ih (fun j hj => hadvances j (List.mem_cons_of_mem _ hj)) ?_
      intro before j after hitems t ht
      exact h (i :: before) j after (by rw [hitems]; rfl) t (.cons hm ht)
    exact hlater.ifMatched fun _ _ => Run.avoids_pure _

/-- No attempt is refused in steps if none is in their parsers, wherever they are attempted. -/
theorem avoids_laterFields (hadvances : ∀ i ∈ items, (step i).Advances (mayBeEmpty i))
    (hcheck : ∀ i ∈ items, ∀ value, (accepts (step i) value).Avoids Event.IsRefusal) (skips : Bool)
    (h : ∀ before i after, items = before ++ i :: after →
      ∀ t, AttemptedAt mayBeEmpty before s t → ((step i).parser t).Avoids Event.IsRefusal) :
    (laterFields skips (items.map step) s).Avoids Event.IsRefusal := by
  induction items generalizing s with
  | nil => exact Run.avoids_pure _
  | cons i items ih =>
    apply (avoids_skipBlanksIf skips s).bind
    intro place hskip
    have hplace : s.LeadsTo place := (skipBlanksIf_yields skips s).of_ok hskip
    have hfirst : ((step i).parser place).Avoids Event.IsRefusal :=
      h [] i items rfl place (.of_leadsTo hplace (.refl place))
    apply (avoids_stepFields hfirst (hcheck i List.mem_cons_self)).ifMatched
    intro m hanswer
    have hm : m.Advances place (mayBeEmpty i) :=
      (advances_stepFields (hadvances i List.mem_cons_self) place).of_ok hanswer
    have hlater : (laterFields skips (items.map step) m.rest).Avoids Event.IsRefusal := by
      refine ih (fun j hj => hadvances j (List.mem_cons_of_mem _ hj))
        (fun j hj => hcheck j (List.mem_cons_of_mem _ hj)) ?_
      intro before j after hitems t ht
      exact h (i :: before) j after (by rw [hitems]; rfl) t (.of_leadsTo hplace (.cons hm ht))
    exact hlater.ifMatched fun _ _ => Run.avoids_pure _

/-- No attempt is refused in the steps of a product if none is in their parsers, wherever they are
attempted. -/
theorem avoids_fields (hadvances : ∀ i ∈ items, (step i).Advances (mayBeEmpty i))
    (hcheck : ∀ i ∈ items, ∀ value, (accepts (step i) value).Avoids Event.IsRefusal) (skips : Bool)
    (h : ∀ before i after, items = before ++ i :: after →
      ∀ t, AttemptedAt mayBeEmpty before s t → ((step i).parser t).Avoids Event.IsRefusal) :
    (fields skips (items.map step) s).Avoids Event.IsRefusal := by
  cases items with
  | nil => exact Run.avoids_pure _
  | cons i items =>
    have hfirst : ((step i).parser s).Avoids Event.IsRefusal := h [] i items rfl s (.refl s)
    apply (avoids_stepFields hfirst (hcheck i List.mem_cons_self)).ifMatched
    intro m hanswer
    have hm : m.Advances s (mayBeEmpty i) :=
      (advances_stepFields (hadvances i List.mem_cons_self) s).of_ok hanswer
    have hlater : (laterFields skips (items.map step) m.rest).Avoids Event.IsRefusal := by
      refine avoids_laterFields (fun j hj => hadvances j (List.mem_cons_of_mem _ hj))
        (fun j hj => hcheck j (List.mem_cons_of_mem _ hj)) skips ?_
      intro before j after hitems t ht
      exact h (i :: before) j after (by rw [hitems]; rfl) t (.cons hm ht)
    exact hlater.ifMatched fun _ _ => Run.avoids_pure _

/-- No attempt is refused in a product if none is in its steps, wherever they are attempted. -/
theorem avoids_product {build : List (String × Value) → Run Value} {skipsBetween skipsAround : Bool}
    (hadvances : ∀ i ∈ items, (step i).Advances (mayBeEmpty i))
    (hcheck : ∀ i ∈ items, ∀ value, (accepts (step i) value).Avoids Event.IsRefusal)
    (hbuild : ∀ captured, (build captured).Avoids Event.IsRefusal)
    (h : ∀ before i after, items = before ++ i :: after →
      ∀ t, AttemptedAt mayBeEmpty before s t → ((step i).parser t).Avoids Event.IsRefusal) :
    (product ⟨build, items.map step, skipsBetween, skipsAround⟩ s).Avoids Event.IsRefusal := by
  apply (avoids_skipBlanksIf skipsAround s).bind
  intro place hskip
  have hplace : s.LeadsTo place := (skipBlanksIf_yields skipsAround s).of_ok hskip
  have hfields : (fields skipsBetween (items.map step) place).Avoids Event.IsRefusal :=
    avoids_fields hadvances hcheck skipsBetween fun before i after hitems t ht =>
      h before i after hitems t (.of_leadsTo hplace ht)
  refine hfields.ifMatched fun m _ => (avoids_skipBlanksIf skipsAround m.rest).bind fun rest _ => ?_
  exact (hbuild m.value).bind fun _ _ => Run.avoids_pure _

end Lists

/-- What happens behind an edge happens in the attempt at the edge. -/
theorem events_subset_edge (parser : Parser Value) (s : Cursor) :
    (parser s).events ⊆ (edge parser s).events := by
  intro event hevent
  simp only [edge]
  split
  · exact List.mem_append_left _ (List.mem_cons_of_mem _ hevent)
  · split
    · exact List.mem_append_left _ (List.mem_cons_of_mem _ hevent)
    · exact List.mem_cons_of_mem _ hevent

/-- What an edge adds to the events of its grammar is its beginning and its end. -/
theorem mem_events_edge {parser : Parser Value} {event : Event}
    (h : event ∈ (edge parser s).events) :
    event ∈ (parser s).events ∨ event = .entered s.pos ∨ event = .left s.pos ∨
      event = .recovered s.pos := by
  simp only [edge] at h
  split at h
  · simp only [List.cons_append, List.mem_cons, List.mem_append, List.not_mem_nil] at h
    rcases h with hentered | hinside | hleft | ⟨⟨⟩⟩
    · exact .inr (.inl hentered)
    · exact .inl hinside
    · exact .inr (.inr (.inl hleft))
  · split at h
    · simp only [List.cons_append, List.mem_cons, List.mem_append, List.not_mem_nil] at h
      rcases h with hentered | hinside | hrecovered | ⟨⟨⟩⟩
      · exact .inr (.inl hentered)
      · exact .inl hinside
      · exact .inr (.inr (.inr hrecovered))
    · rcases List.mem_cons.mp h with hentered | hinside
      · exact .inr (.inl hentered)
      · exact .inl hinside

/-! ### Attempts at one cursor and repetitions -/

/-- No attempt is refused in a choice if none is in its alternatives, which are all attempted at its
own cursor. -/
theorem avoids_choice {parse : ι → Parser α} {items : List ι} {exhausted : Nat → Nat → Event}
    (hexhausted : ∀ count pos, ¬(exhausted count pos).IsRefusal)
    (h : ∀ i ∈ items, (parse i s).Avoids Event.IsRefusal) :
    (choice exhausted (items.map parse) s).Avoids Event.IsRefusal := by
  have hfirst : (firstMatch (items.map parse) s).Avoids Event.IsRefusal := by
    induction items with
    | nil => exact Run.avoids_pure _
    | cons i items ih =>
      apply (h i List.mem_cons_self).bind
      intro outcome _
      cases outcome with
      | matched m => exact Run.avoids_pure _
      | failed f =>
        apply (ih fun j hj => h j (List.mem_cons_of_mem _ hj)).bind
        intro result _
        cases result <;> exact Run.avoids_pure _
  apply hfirst.bind
  intro result _
  cases result with
  | ok m => exact Run.avoids_pure _
  | error failures =>
    exact (Run.avoids_emit (hexhausted _ _)).bind fun _ _ => Run.avoids_pure _

/-- No attempt is refused in an option if none is in its parser. -/
theorem avoids_optional (h : (parser s).Avoids Event.IsRefusal) (default : α) :
    (optional parser default s).Avoids Event.IsRefusal := by
  apply h.bind
  intro outcome _
  cases outcome <;> exact Run.avoids_pure _

/-- No attempt is refused in repeated attempts if none is in the parser, wherever they lead. -/
theorem avoids_repeatFrom (hadvances : parser.Advances empty) (attempts : Nat)
    (h : ∀ t, s.LeadsTo t → (parser t).Avoids Event.IsRefusal) :
    (repeatFrom parser attempts s).Avoids Event.IsRefusal := by
  induction attempts generalizing s with
  | zero => exact Run.avoids_fault _
  | succ attempts ih =>
    apply (h s (.refl s)).bind
    intro outcome hanswer
    cases outcome with
    | failed f => exact Run.avoids_pure _
    | matched m =>
      have hm : m.Advances s empty := (hadvances s).of_ok hanswer
      by_cases hpos : m.rest.pos = s.pos
      · simp only [if_pos hpos]
        exact (Run.avoids_emit id).bind fun _ _ => Run.avoids_pure _
      · simp only [if_neg hpos]
        apply (ih fun t ht => h t (hm.leads.trans ht)).bind
        intro _ _
        exact Run.avoids_pure _

/-- No attempt is refused in a repetition if none is in its parser, wherever it leads. -/
theorem avoids_many (hadvances : parser.Advances empty)
    (h : ∀ t, s.LeadsTo t → (parser t).Avoids Event.IsRefusal) :
    (many parser s).Avoids Event.IsRefusal :=
  (avoids_repeatFrom hadvances _ h).bind fun _ _ => Run.avoids_pure _

/-- No attempt is refused in a repetition that must match if none is in its parser, wherever it
leads. -/
theorem avoids_many1 (hadvances : parser.Advances empty)
    (h : ∀ t, s.LeadsTo t → (parser t).Avoids Event.IsRefusal) :
    (many1 parser s).Avoids Event.IsRefusal := by
  apply (h s (.refl s)).ifMatched
  intro m hanswer
  have hm : m.Advances s empty := (hadvances s).of_ok hanswer
  apply (avoids_repeatFrom hadvances _ fun t ht => h t (hm.leads.trans ht)).bind
  intro _ _
  exact Run.avoids_pure _

/-- No attempt is refused by a probe. -/
theorem avoids_probed (h : (parser s).Avoids Event.IsRefusal) (label : String) :
    (probed label parser s).Avoids Event.IsRefusal :=
  (Run.avoids_emit id).bind fun _ _ => h

/-- An attempt at an edge that is made refuses none by itself. -/
theorem avoids_edge {parser : Parser Value} (h : (parser s).Avoids Event.IsRefusal) :
    (edge parser s).Avoids Event.IsRefusal := by
  intro event hevent hrefusal
  rcases mem_events_edge hevent with hinside | rfl | rfl | rfl
  · exact h event hinside hrefusal
  all_goals exact hrefusal

end Parser

end TextGrammar
