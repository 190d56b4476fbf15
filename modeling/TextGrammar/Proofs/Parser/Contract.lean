import TextGrammar.Parser.Combinators
import TextGrammar.Parser.Product
import TextGrammar.Proofs.Parser.Characters
import TextGrammar.Proofs.Run.Rules

/-!
# The contract of parsers

A parser stays in the text that it is given and never goes back. Its matches begin where it
was called; its failures lie there or behind, and so do the failures nested in them. Beyond
that a parser may promise to read at least one character. Every combination of parsers
keeps this contract when its parts do.
-/

namespace TextGrammar

variable {α β ι : Type}

/-- The failures nested in a failure lie at it or behind it; the cause of a missing number lies
exactly at it. A failure about a character lies at that character, one about the end at the end. -/
inductive Failure.Placed : Failure → Prop
  | plain {place message notes} : Placed (.plain place message notes)
  | mismatch {place expected actual} (h : place.next? = some actual) :
      Placed (.mismatch place expected actual)
  | ended {place expected} (h : place.next? = none) : Placed (.ended place expected)
  | noneMatched {place failures} (hleads : ∀ f ∈ failures, place.LeadsTo f.cursor)
      (hplaced : ∀ f ∈ failures, f.Placed) : Placed (.noneMatched place failures)
  | noNumber {place cause} (hcursor : cause.cursor = place) (hplaced : cause.Placed) :
      Placed (.noNumber place cause)
  | tooWide {place text width} : Placed (.tooWide place text width)
  | noExponent {place} : Placed (.noExponent place)
  | rejected {place field value writable} : Placed (.rejected place field value writable)
  | tooDeep {place} : Placed (.tooDeep place)

/-- A failure lies at a cursor or behind it, and the failures nested in it lie in order. -/
structure Failure.LiesFrom (f : Failure) (s : Cursor) : Prop where
  leads : s.LeadsTo f.cursor
  placed : f.Placed

/-- A match begins at a cursor and ends there or behind; at the cursor itself only if that is
allowed. -/
structure Match.Advances (m : Match α) (s : Cursor) (empty : Prop) : Prop where
  start_eq : m.start = s.pos
  leads : s.LeadsTo m.rest
  empty_of_pos_eq : m.rest.pos = s.pos → empty

/-- An outcome of an attempt at a cursor that keeps the contract. -/
def Outcome.Advances (outcome : Outcome α) (s : Cursor) (empty : Prop) : Prop :=
  match outcome with
  | .matched m => m.Advances s empty
  | .failed f => f.LiesFrom s

/-- A parser keeps the contract: it only moves forward, and it reads at least one character unless
it may match nothing. -/
def Parser.Advances (parser : Parser α) (empty : Prop) : Prop :=
  ∀ s, (parser s).Yields fun outcome => outcome.Advances s empty

/-- A step keeps the contract and its check can be called with any value. -/
structure Step.Advances (step : Step Run (Parser Value)) (empty : Prop) : Prop where
  parser : step.parser.Advances empty
  check : ∀ value, (Parser.accepts step value).Yields fun _ => True

/-- A failure at a cursor lies from that cursor on. -/
theorem Failure.LiesFrom.of_cursor_eq {f : Failure} {s : Cursor} (hcursor : f.cursor = s)
    (hplaced : f.Placed) : f.LiesFrom s :=
  ⟨hcursor ▸ Cursor.LeadsTo.refl s, hplaced⟩

/-- What lies from a cursor on lies from every cursor on that leads there. -/
theorem Failure.LiesFrom.of_leadsTo {f : Failure} {s t : Cursor} (h : f.LiesFrom t)
    (hst : s.LeadsTo t) : f.LiesFrom s :=
  ⟨hst.trans h.leads, h.placed⟩

/-- A match advances also where more parsers may be empty. -/
theorem Match.Advances.mono {m : Match α} {s : Cursor} {empty empty' : Prop}
    (h : m.Advances s empty) (himp : empty → empty') : m.Advances s empty' :=
  ⟨h.start_eq, h.leads, fun hpos => himp (h.empty_of_pos_eq hpos)⟩

/-- A match of two parts, one behind the other, is empty only if both parts are. -/
theorem Match.Advances.both {m : Match α} {later : Match β} {s : Cursor} {first second : Prop}
    (h : m.Advances s first) (hlater : later.Advances m.rest second)
    (hpos : later.rest.pos = s.pos) : first ∧ second := by
  have hle := h.leads.pos_le
  have hle' := hlater.leads.pos_le
  exact ⟨h.empty_of_pos_eq (by omega), hlater.empty_of_pos_eq (by omega)⟩

namespace Parser

variable {empty : Prop} {parser : Parser α}

/-- A parser advances also where it may be empty for more reasons. -/
theorem Advances.mono {empty' : Prop} (h : parser.Advances empty) (himp : empty → empty') :
    parser.Advances empty' := by
  intro s
  apply (h s).mono
  intro outcome houtcome
  cases outcome with
  | matched m => exact Match.Advances.mono houtcome himp
  | failed f => exact houtcome

/-- Changing the value does not change how far a parser advances. -/
theorem advances_map (h : parser.Advances empty) (f : α → β) : (map f parser).Advances empty :=
  fun s => (h s).ifMatched
    (fun _ hm => Run.yields_pure ⟨hm.start_eq, hm.leads, hm.empty_of_pos_eq⟩) (fun _ hf => hf)

/-- Calling a function on the value does not change how far a parser advances. -/
theorem advances_mapRun {f : α → Run β} (h : parser.Advances empty)
    (hf : ∀ a, (f a).Yields fun _ => True) : (mapRun parser f).Advances empty := by
  intro s
  apply (h s).ifMatched _ (fun _ hf => hf)
  intro m hm
  apply (hf m.value).bind
  intro b _
  exact Run.yields_pure ⟨hm.start_eq, hm.leads, hm.empty_of_pos_eq⟩

/-- A test may answer anything; a character that passes is read. -/
theorem advances_satisfy {test : Char → Run Bool} {expected : String}
    (htest : ∀ c, (test c).Yields fun _ => True) : (satisfy test expected).Advances False := by
  intro s
  cases hrest : s.rest with
  | nil =>
    rw [satisfy_of_nil hrest]
    have hnext := Cursor.next?_of_rest_eq_nil hrest
    exact Run.yields_pure ⟨Cursor.LeadsTo.refl s, .ended hnext⟩
  | cons c cs =>
    rw [satisfy_of_cons hrest]
    apply (htest c).bind
    intro passed _
    cases passed with
    | false => exact Run.yields_pure ⟨Cursor.LeadsTo.refl s, .mismatch (Cursor.next?_of_rest hrest)⟩
    | true =>
      have hsome : 1 ≤ s.remaining := by
        rw [Cursor.remaining_of_rest hrest]
        omega
      refine Run.yields_pure ⟨rfl, s.leadsTo_skip 1, fun hpos => ?_⟩
      have hskip := Cursor.pos_skip hsome
      change (s.skip 1).pos = s.pos at hpos
      omega

/-! ### Sequences and choices -/

section Lists

variable {parse : ι → Parser α} {mayBeEmpty : ι → Prop} {items : List ι}

/-- A sequence may match nothing only if all of its parts may. -/
theorem advances_sequence (h : ∀ i ∈ items, (parse i).Advances (mayBeEmpty i)) :
    (sequence (items.map parse)).Advances (∀ i ∈ items, mayBeEmpty i) := by
  induction items with
  | nil =>
    intro s
    exact Run.yields_pure ⟨rfl, Cursor.LeadsTo.refl s, fun _ => by simp⟩
  | cons i items ih =>
    intro s
    have hlater := ih fun j hj => h j (List.mem_cons_of_mem _ hj)
    apply (h i List.mem_cons_self s).ifMatched _ (fun _ hf => hf)
    intro m hm
    refine (hlater m.rest).ifMatched (fun ms hms => Run.yields_pure ?_)
      (fun _ hf => hf.of_leadsTo hm.leads)
    refine ⟨rfl, hm.leads.trans hms.leads, fun hpos => ?_⟩
    simpa only [List.forall_mem_cons] using hm.both hms hpos

/-- Every attempt of a choice begins at the same cursor. -/
theorem firstMatch_yields (h : ∀ i ∈ items, (parse i).Advances (mayBeEmpty i)) (s : Cursor) :
    (firstMatch (items.map parse) s).Yields fun
      | .ok m => m.Advances s (∃ i ∈ items, mayBeEmpty i)
      | .error failures => ∀ f ∈ failures, f.LiesFrom s := by
  induction items with
  | nil => exact Run.yields_pure (by simp)
  | cons i items ih =>
    apply (h i List.mem_cons_self s).bind
    intro outcome houtcome
    cases outcome with
    | matched m =>
      exact Run.yields_pure
        (Match.Advances.mono houtcome fun hempty => ⟨i, List.mem_cons_self, hempty⟩)
    | failed f =>
      apply (ih fun j hj => h j (List.mem_cons_of_mem _ hj)).bind
      intro result hresult
      cases result with
      | ok m =>
        refine Run.yields_pure (Match.Advances.mono hresult ?_)
        rintro ⟨j, hj, hempty⟩
        exact ⟨j, List.mem_cons_of_mem _ hj, hempty⟩
      | error failures =>
        have hf : f.LiesFrom s := houtcome
        refine Run.yields_pure ?_
        simpa only [List.forall_mem_cons] using And.intro hf hresult

/-- A choice may match nothing only if one of its alternatives may. -/
theorem advances_choice (exhausted : Nat → Nat → Event)
    (h : ∀ i ∈ items, (parse i).Advances (mayBeEmpty i)) :
    (choice exhausted (items.map parse)).Advances (∃ i ∈ items, mayBeEmpty i) := by
  intro s
  apply (firstMatch_yields h s).bind
  intro result hresult
  cases result with
  | ok m => exact Run.yields_pure hresult
  | error failures =>
    refine (Run.yields_emit trivial).bind fun _ (_ : True) => Run.yields_pure ?_
    exact ⟨Cursor.LeadsTo.refl s,
      .noneMatched (fun f hf => (hresult f hf).leads) (fun f hf => (hresult f hf).placed)⟩

end Lists

/-- An option advances, and may be empty. -/
theorem advances_optional (h : parser.Advances empty) (default : α) :
    (optional parser default).Advances True := by
  intro s
  apply (h s).bind
  intro outcome houtcome
  cases outcome with
  | matched m => exact Run.yields_pure (Match.Advances.mono houtcome fun _ => trivial)
  | failed f => exact Run.yields_pure ⟨rfl, Cursor.LeadsTo.refl s, fun _ => trivial⟩

/-! ### Repetition -/

/-- Every attempt but the last one of a repetition reads a character, so the attempts suffice. -/
theorem repeatFrom_yields (h : parser.Advances empty) {attempts : Nat} {s : Cursor}
    (hattempts : s.remaining < attempts) :
    (repeatFrom parser attempts s).Yields fun result => s.LeadsTo result.2 := by
  induction attempts generalizing s with
  | zero => omega
  | succ attempts ih =>
    apply (h s).bind
    intro outcome houtcome
    cases outcome with
    | failed f => exact Run.yields_pure (Cursor.LeadsTo.refl s)
    | matched m =>
      have hm : m.Advances s empty := houtcome
      by_cases hpos : m.rest.pos = s.pos
      · simp only [if_pos hpos]
        exact (Run.yields_emit trivial).bind fun _ (_ : True) =>
          Run.yields_pure (Cursor.LeadsTo.refl s)
      · simp only [if_neg hpos]
        have hless := hm.leads.remaining_lt hpos
        apply (ih (by omega)).bind
        intro result hresult
        exact Run.yields_pure (hm.leads.trans hresult)

/-- There are more attempts than characters. -/
theorem attemptsIn_enough (s : Cursor) : s.remaining < attemptsIn s := by
  simp only [Cursor.remaining, attemptsIn]
  omega

/-- A repetition advances, and may be empty. -/
theorem advances_many (h : parser.Advances empty) : (many parser).Advances True := by
  intro s
  apply (repeatFrom_yields h (attemptsIn_enough s)).bind
  intro result hresult
  exact Run.yields_pure ⟨rfl, hresult, fun _ => trivial⟩

/-- One match is read in any case, so only an empty one leaves the whole empty. -/
theorem advances_many1 (h : parser.Advances empty) : (many1 parser).Advances empty := by
  intro s
  apply (h s).ifMatched _ (fun _ hf => hf)
  intro m hm
  apply (repeatFrom_yields h (attemptsIn_enough m.rest)).bind
  intro result hresult
  refine Run.yields_pure ⟨rfl, hm.leads.trans hresult, fun hpos => hm.empty_of_pos_eq ?_⟩
  have hle := hm.leads.pos_le
  have hle' := hresult.pos_le
  change result.2.pos = s.pos at hpos
  omega

/-! ### Products, sums and edges -/

/-- Skipping blanks, if asked to, moves forward. -/
theorem skipBlanksIf_yields (skips : Bool) (s : Cursor) :
    (skipBlanksIf skips s).Yields fun place => s.LeadsTo place := by
  cases skips with
  | false => exact Run.yields_pure (Cursor.LeadsTo.refl s)
  | true =>
    rw [skipBlanksIf, if_pos rfl, skipBlanks_eq]
    exact Run.yields_pure (s.leadsTo_skip _)

/-- A rejected value makes a parser fail where it began, unless showing the value goes wrong. -/
theorem advances_reject (field : Option String) (value : Value) :
    (reject field value : Parser α).Advances empty := by
  intro s
  refine (Run.yields_consult fun f hf => ?_).bind fun f (hf : f.LiesFrom s) => Run.yields_pure hf
  obtain ⟨writable, rfl⟩ := Failure.exists_of_rejected? hf
  exact ⟨Cursor.LeadsTo.refl s, .rejected⟩

/-- A step advances as its parser does. -/
theorem advances_stepFields {step : Step Run (Parser Value)} (h : step.Advances empty) :
    (stepFields step).Advances empty := by
  intro s
  apply (h.parser s).ifMatched _ (fun _ hf => hf)
  intro m hm
  apply (h.check m.value).bind
  intro accepted _
  cases accepted with
  | true => exact Run.yields_pure ⟨rfl, hm.leads, hm.empty_of_pos_eq⟩
  | false => exact advances_reject step.field m.value s

section Steps

variable {step : ι → Step Run (Parser Value)} {mayBeEmpty : ι → Prop} {items : List ι}

/-- Steps advance, and are empty together only if all of them may be. -/
theorem advances_laterFields (h : ∀ i ∈ items, (step i).Advances (mayBeEmpty i)) (skips : Bool) :
    (laterFields skips (items.map step)).Advances (∀ i ∈ items, mayBeEmpty i) := by
  induction items with
  | nil =>
    intro s
    exact Run.yields_pure ⟨rfl, Cursor.LeadsTo.refl s, fun _ => by simp⟩
  | cons i items ih =>
    intro s
    have hlater := ih fun j hj => h j (List.mem_cons_of_mem _ hj)
    apply (skipBlanksIf_yields skips s).bind
    intro place hplace
    apply (advances_stepFields (h i List.mem_cons_self) place).ifMatched _
      (fun _ hf => hf.of_leadsTo hplace)
    intro m hm
    refine (hlater m.rest).ifMatched (fun ms hms => Run.yields_pure ?_)
      (fun _ hf => hf.of_leadsTo (hplace.trans hm.leads))
    refine ⟨rfl, hplace.trans (hm.leads.trans hms.leads), fun hpos => ?_⟩
    have hle := hplace.pos_le
    have hle' := (hm.leads.trans hms.leads).pos_le
    have hpos' : ms.rest.pos = place.pos := by
      change ms.rest.pos = s.pos at hpos
      omega
    simpa only [List.forall_mem_cons] using hm.both hms hpos'

/-- The steps of a product advance, and are empty together only if all of them may be. -/
theorem advances_fields (h : ∀ i ∈ items, (step i).Advances (mayBeEmpty i)) (skips : Bool) :
    (fields skips (items.map step)).Advances (∀ i ∈ items, mayBeEmpty i) := by
  cases items with
  | nil =>
    intro s
    exact Run.yields_pure ⟨rfl, Cursor.LeadsTo.refl s, fun _ => by simp⟩
  | cons i items =>
    intro s
    have hlater := advances_laterFields (fun j hj => h j (List.mem_cons_of_mem _ hj)) skips
    apply (advances_stepFields (h i List.mem_cons_self) s).ifMatched _
      (fun _ hf => hf)
    intro m hm
    refine (hlater m.rest).ifMatched (fun ms hms => Run.yields_pure ?_)
      (fun _ hf => hf.of_leadsTo hm.leads)
    refine ⟨rfl, hm.leads.trans hms.leads, fun hpos => ?_⟩
    simpa only [List.forall_mem_cons] using hm.both hms hpos

/-- A product may match nothing only if all of its steps may. -/
theorem advances_product {build : List (String × Value) → Run Value}
    {skipsBetween skipsAround : Bool}
    (h : ∀ i ∈ items, (step i).Advances (mayBeEmpty i))
    (hbuild : ∀ captured, (build captured).Yields fun _ => True) :
    (product ⟨build, items.map step, skipsBetween, skipsAround⟩).Advances
      (∀ i ∈ items, mayBeEmpty i) := by
  intro s
  apply (skipBlanksIf_yields skipsAround s).bind
  intro place hplace
  apply (advances_fields h skipsBetween place).ifMatched _
    (fun _ hf => hf.of_leadsTo hplace)
  intro m hm
  apply (skipBlanksIf_yields skipsAround m.rest).bind
  intro rest hrest
  refine (hbuild m.value).bind fun value _ => Run.yields_pure ?_
  refine ⟨rfl, hplace.trans (hm.leads.trans hrest), fun hpos => hm.empty_of_pos_eq ?_⟩
  have hle := hplace.pos_le
  have hle' := hm.leads.pos_le
  have hle'' := hrest.pos_le
  change rest.pos = s.pos at hpos
  omega

end Steps

/-- A tag does not change how far a parser advances. -/
theorem advances_retagged (h : parser.Advances empty) (tag : Option String) :
    (retagged tag parser).Advances empty :=
  fun s => (h s).ifMatched
    (fun _ hm => Run.yields_pure ⟨hm.start_eq, hm.leads, hm.empty_of_pos_eq⟩) (fun _ hf => hf)

/-- A probe does not change how far a parser advances. -/
theorem advances_probed (h : parser.Advances empty) (label : String) :
    (probed label parser).Advances empty :=
  fun s => (Run.yields_emit trivial).bind fun _ (_ : True) => h s

/-- A refused attempt fails where it is made. -/
theorem advances_refused (empty : Prop) : (refused : Parser α).Advances empty :=
  fun s => ⟨Cursor.LeadsTo.refl s, .tooDeep⟩

/-- An edge passes on what its grammar answers, or fails where it was attempted. -/
theorem advances_edge {parser : Parser Value} (h : parser.Advances empty) :
    (edge parser).Advances empty := by
  intro s
  cases hanswer : (parser s).answer with
  | ok outcome =>
    have houtcome := (h s).of_ok hanswer
    simp only [edge, hanswer, Run.Yields]
    cases outcome with
    | matched m => exact ⟨houtcome.start_eq, houtcome.leads, houtcome.empty_of_pos_eq⟩
    | failed f => exact houtcome
  | error e =>
    have hraised := (h s).raised hanswer
    simp only [edge, hanswer]
    split
    · exact ⟨Cursor.LeadsTo.refl s, .tooDeep⟩
    · exact List.mem_cons_of_mem _ hraised

end Parser

end TextGrammar
