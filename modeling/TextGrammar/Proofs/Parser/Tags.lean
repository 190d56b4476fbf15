import TextGrammar.Proofs.Leaf.Reading
import TextGrammar.Proofs.Parser.Refusal

/-!
# The tags of matches

Where the tag of a match comes from. A match that is handed on keeps its tag, also if its value is
changed; a match that is put together of others has none, whatever tags they have.
-/

namespace TextGrammar

variable {α β : Type} {T : Option String → Prop}

/-- If a run answers with a match, the match has one of some tags. -/
def Run.GivesTags (run : Run (Outcome α)) (T : Option String → Prop) : Prop :=
  ∀ m, run.answer = .ok (.matched m) → T m.tag

/-- All matches of a parser have some tags. -/
def Parser.GivesTags (parser : Parser α) (T : Option String → Prop) : Prop :=
  ∀ s, (parser s).GivesTags T

namespace Run

/-- A match gives the tag that it has. -/
theorem givesTags_matched {m : Match α} (h : T m.tag) : (matched m).GivesTags T := by
  intro m' hm
  cases hm
  exact h

/-- A failure gives no tag. -/
theorem givesTags_failed (f : Failure) : (failed f : Run (Outcome α)).GivesTags T :=
  fun _ hm => by cases hm

/-- A run gives the tags of what it ends with. -/
theorem givesTags_bind {run : Run α} {next : α → Run (Outcome β)}
    (h : ∀ a, run.answer = .ok a → (next a).GivesTags T) : (run.bind next).GivesTags T := by
  intro m hm
  obtain ⟨a, ha, hnext⟩ := exists_of_bind hm
  exact h a ha m hnext

/-- Going on with a match gives the tags of what follows. -/
theorem givesTags_ifMatched {run : Run (Outcome α)} {next : Match α → Run (Outcome β)}
    (h : ∀ m, run.answer = .ok (.matched m) → (next m).GivesTags T) :
    (run.ifMatched next).GivesTags T := by
  intro m hm
  obtain ⟨first, hfirst, hnext⟩ := exists_of_ifMatched hm
  exact h first hfirst m hnext

end Run

namespace Parser

variable {ι : Type} {parser : Parser α} {s : Cursor}

/-- The tags that a parser gives are among any that comprise them. -/
theorem GivesTags.mono {T' : Option String → Prop} (h : parser.GivesTags T)
    (himp : ∀ tag, T tag → T' tag) : parser.GivesTags T' :=
  fun s m hm => himp _ (h s m hm)

/-! ### Matches that are handed on -/

/-- Changing the value keeps the tag. -/
theorem givesTags_map (h : parser.GivesTags T) (f : α → β) : (map f parser).GivesTags T :=
  fun s => Run.givesTags_ifMatched fun m hm => Run.givesTags_matched (h s m hm)

/-- Calling a function on the value keeps the tag. -/
theorem givesTags_mapRun (h : parser.GivesTags T) (f : α → Run β) :
    (mapRun parser f).GivesTags T :=
  fun s => Run.givesTags_ifMatched fun m hm => Run.givesTags_bind fun _ _ =>
    Run.givesTags_matched (h s m hm)

/-- A probe keeps the tag. -/
theorem givesTags_probed (h : parser.GivesTags T) (label : String) :
    (probed label parser).GivesTags T :=
  fun s => Run.givesTags_bind fun _ _ => h s

/-- A choice gives the tags of its alternatives. -/
theorem givesTags_choice {exhausted : Nat → Nat → Event} {parse : ι → Parser α} {items : List ι}
    (h : ∀ i ∈ items, (parse i).GivesTags T) :
    (choice exhausted (items.map parse)).GivesTags T := by
  intro s
  refine Run.givesTags_bind fun result hresult => ?_
  cases result with
  | ok m =>
    obtain ⟨i, hi, hm⟩ := exists_of_firstMatch hresult
    exact Run.givesTags_matched (h i hi s m hm)
  | error failures => exact Run.givesTags_bind fun _ _ => Run.givesTags_failed _

/-- The match that is made up for a failure has no tag. -/
theorem givesTags_optional (h : parser.GivesTags T) (hnone : T none) (default : α) :
    (optional parser default).GivesTags T := by
  intro s
  refine Run.givesTags_bind fun outcome houtcome => ?_
  cases outcome with
  | matched m => exact Run.givesTags_matched (h s m houtcome)
  | failed f => exact Run.givesTags_matched hnone

/-- What an edge has matched is the match behind it, in a box. -/
theorem exists_of_edge {parser : Parser Value} {m : Match Value}
    (h : (edge parser s).answer = .ok (.matched m)) :
    ∃ inside, (parser s).answer = .ok (.matched inside) ∧
      m = inside.withValue (.box inside.value) := by
  rw [edge] at h
  split at h
  · next outcome houtcome =>
    cases outcome with
    | matched inside =>
      cases h
      exact ⟨inside, houtcome, rfl⟩
    | failed f => cases h
  · split at h <;> cases h

/-- An edge gives the tags of what it leads to. -/
theorem givesTags_edge {parser : Parser Value} (h : parser.GivesTags T) :
    (edge parser).GivesTags T := by
  intro s m hm
  obtain ⟨inside, hinside, rfl⟩ := exists_of_edge hm
  exact h s inside hinside

/-- A refused attempt gives no tag. -/
theorem givesTags_refused : (refused : Parser α).GivesTags T := fun _ _ hm => by cases hm

/-! ### Matches that are put together -/

/-- What does as a reading says gives no tag. -/
theorem Reads.givesTags {reading : Reading α} (h : parser.Reads reading) :
    parser.GivesTags (· = none) := by
  intro s
  cases hreading : reading s.rest with
  | none =>
    obtain ⟨f, -, hfailed⟩ := h.failed hreading
    rw [hfailed]
    exact Run.givesTags_failed f
  | some result =>
    rw [h.matched hreading]
    exact Run.givesTags_matched rfl

/-- A tested character has no tag. -/
theorem givesTags_satisfy (test : Char → Run Bool) (expected : String) :
    (satisfy test expected).GivesTags (· = none) := by
  intro s
  rw [satisfy]
  split
  · exact Run.givesTags_failed _
  · refine Run.givesTags_bind fun passed _ => ?_
    split
    · exact Run.givesTags_bind fun _ _ => Run.givesTags_matched rfl
    · exact Run.givesTags_bind fun _ _ => Run.givesTags_failed _

/-- A sequence has no tag of its own. -/
theorem givesTags_sequence (parsers : List (Parser α)) :
    (sequence parsers).GivesTags (· = none) := by
  intro s
  cases parsers with
  | nil => exact Run.givesTags_matched rfl
  | cons parser parsers =>
    exact Run.givesTags_ifMatched fun _ _ => Run.givesTags_ifMatched fun _ _ =>
      Run.givesTags_matched rfl

/-- A repetition has no tag. -/
theorem givesTags_many (parser : Parser α) : (many parser).GivesTags (· = none) :=
  fun _ => Run.givesTags_bind fun _ _ => Run.givesTags_matched rfl

/-- A repetition that must match has no tag. -/
theorem givesTags_many1 (parser : Parser α) : (many1 parser).GivesTags (· = none) :=
  fun _ => Run.givesTags_ifMatched fun _ _ => Run.givesTags_bind fun _ _ =>
    Run.givesTags_matched rfl

/-- A product has no tag. -/
theorem givesTags_product (p : Product Run (Parser Value)) :
    (product p).GivesTags (· = none) :=
  fun _ => Run.givesTags_bind fun _ _ => Run.givesTags_ifMatched fun _ _ =>
    Run.givesTags_bind fun _ _ => Run.givesTags_bind fun _ _ => Run.givesTags_matched rfl

/-- A parser with a tag gives this one alone. -/
theorem givesTags_retagged (tag : Option String) (parser : Parser α) :
    (retagged tag parser).GivesTags (· = tag) :=
  fun _ => Run.givesTags_ifMatched fun _ _ => Run.givesTags_matched rfl

end Parser

end TextGrammar
