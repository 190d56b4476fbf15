import TextGrammar.Proofs.Parser.Contract
import TextGrammar.Proofs.Run.Behind

/-!
# Local parsers

A parser is local if it does not look behind its cursor: with more characters before the text
its runs are moved and otherwise the same. Characters, literals and blanks are read by local
parsers, and combinations of local parsers are local.
-/

namespace TextGrammar.Parser

variable {α β ι : Type} {parser : Parser α} {front : Array Char} {s : Cursor}

/-- A parser works alike wherever the text stands. -/
def IsLocal (parser : Parser α) : Prop :=
  ∀ front s, parser (s.behind front) = (parser s).behind front (Outcome.behind front)

/-! ### Characters -/

/-- A test that is given no position decides alike wherever the text stands. -/
theorem isLocal_satisfy {test : Char → Run Bool} {expected : String}
    (htest : ∀ c, (test c).IsPlaceless) : (satisfy test expected).IsLocal := by
  intro front s
  cases hrest : s.rest with
  | nil =>
    rw [satisfy_of_nil hrest, satisfy_of_nil (by rwa [Cursor.rest_behind])]
    rfl
  | cons c cs =>
    rw [satisfy_of_cons hrest, satisfy_of_cons (by rwa [Cursor.rest_behind])]
    apply Run.bind_behind (htest c front)
    intro passed _
    cases passed with
    | false => rfl
    | true =>
      rw [id_eq, if_pos rfl, if_pos rfl, Cursor.skip_behind]
      exact Run.matchTo_behind _ _ _

/-- A character of a class is read alike wherever the text stands. -/
theorem isLocal_charOf (accepts : Char → Bool) (expected : String) :
    (charOf accepts expected).IsLocal :=
  isLocal_satisfy fun _ => Run.isPlaceless_pure _

/-- The end is found alike wherever the text stands. -/
theorem isLocal_finish : finish.IsLocal := by
  intro front s
  cases hrest : s.rest with
  | nil =>
    rw [finish_of_nil hrest, finish_of_nil (by rwa [Cursor.rest_behind])]
    exact Run.matchTo_behind _ _ _
  | cons c cs =>
    rw [finish_of_cons hrest, finish_of_cons (by rwa [Cursor.rest_behind])]
    rfl

/-- Nothing is read alike wherever the text stands. -/
theorem isLocal_nothing : nothing.IsLocal := fun _ _ => Run.matchTo_behind _ _ _

/-- The first difference from a literal is at the same character. -/
theorem firstDifference_behind (literal : String) {chars : List Char} {index : Nat}
    (hindex : index ≤ s.remaining) :
    firstDifference literal (s.behind front) index chars =
      (firstDifference literal s index chars).map (Failure.behind front) := by
  induction chars generalizing index with
  | nil => rfl
  | cons expected chars ih =>
    have hmove : (s.behind front).move index = .ok ((s.skip index).behind front) := by
      rw [Cursor.move_eq_skip (by rwa [Cursor.remaining_behind]), Cursor.skip_behind]
    simp only [firstDifference, hmove, Cursor.move_eq_skip hindex]
    cases hrest : (s.skip index).rest with
    | nil =>
      have hnext := Cursor.next?_of_rest_eq_nil hrest
      have hnext' : ((s.skip index).behind front).next? = none :=
        Cursor.next?_of_rest_eq_nil (by rwa [Cursor.rest_behind])
      simp only [hnext, hnext']
      rfl
    | cons actual cs =>
      have hnext := Cursor.next?_of_rest hrest
      have hnext' : ((s.skip index).behind front).next? = some actual :=
        Cursor.next?_of_rest (by rwa [Cursor.rest_behind])
      have hindex' : index + 1 ≤ s.remaining := by
        have hlength := congrArg List.length hrest
        rw [Cursor.rest_skip, List.length_drop, Cursor.length_rest, List.length_cons] at hlength
        omega
      simp only [hnext, hnext']
      by_cases heq : actual = expected
      · simp only [if_pos heq]
        exact ih hindex'
      · simp only [if_neg heq, Failure.mismatch?, hnext, hnext']
        rfl

/-- A text of several characters is read alike wherever the text stands. -/
theorem isLocal_phrase (text : String) : (phrase text).IsLocal := by
  intro front s
  by_cases hprefix : text.toList <+: s.rest
  · have hmoved : text.toList <+: (s.behind front).rest := by rwa [Cursor.rest_behind]
    have hread := phrase_of_prefix hprefix
    have hread' := phrase_of_prefix hmoved
    rw [hread, hread', Cursor.skip_behind]
    exact Run.matchTo_behind _ _ _
  · have hnot : ¬s.startsWith text.toList = true := by rwa [Cursor.startsWith_iff]
    have hnot' : ¬(s.behind front).startsWith text.toList = true := by
      rwa [Cursor.startsWith_iff, Cursor.rest_behind]
    rw [phrase, phrase, if_neg hnot, if_neg hnot', firstDifference_behind text (Nat.zero_le _)]
    cases firstDifference text s 0 text.toList <;> rfl

/-- Blanks are read alike wherever the text stands. -/
theorem isLocal_blanks : blanks.IsLocal := by
  intro front s
  rw [blanks_eq, blanks_eq, Cursor.rest_behind, Cursor.afterBlanks_behind]
  exact Run.matchTo_behind _ _ _

/-- One or more blanks are read alike wherever the text stands. -/
theorem isLocal_someBlanks : someBlanks.IsLocal := by
  intro front s
  exact Run.ifMatched_behind (isLocal_charOf _ _ front s) fun _ _ => isLocal_blanks front s

/-! ### Single parts -/

/-- Changing the value does not see where the text stands. -/
theorem isLocal_map (h : parser.IsLocal) (f : α → β) : (map f parser).IsLocal :=
  fun front s => Run.ifMatched_behind (h front s) fun _ _ => rfl

/-- Calling a function on the value does not see where the text stands. -/
theorem isLocal_mapRun {f : α → Run β} (h : parser.IsLocal) (hf : ∀ a, (f a).IsPlaceless) :
    (mapRun parser f).IsLocal :=
  fun front s => Run.ifMatched_behind (h front s) fun m _ =>
    Run.bind_behind (hf m.value front) fun _ _ => rfl

/-- An option does not see where the text stands if its parser does not. -/
theorem isLocal_optional (h : parser.IsLocal) (default : α) :
    (optional parser default).IsLocal := by
  intro front s
  apply Run.bind_behind (h front s)
  intro outcome _
  cases outcome with
  | matched m => rfl
  | failed f => exact Run.matchTo_behind _ _ _

/-- A tag does not depend on where the text stands. -/
theorem isLocal_retagged (h : parser.IsLocal) (tag : Option String) :
    (retagged tag parser).IsLocal :=
  fun front s => Run.ifMatched_behind (h front s) fun _ _ => rfl

/-- A probe notes the position and changes nothing else. -/
theorem isLocal_probed (h : parser.IsLocal) (label : String) : (probed label parser).IsLocal := by
  intro front s
  have hprobed : Run.emit (.probed label (s.behind front).pos) =
      (Run.emit (.probed label s.pos)).behind front id := rfl
  exact Run.bind_behind hprobed fun _ _ => h front s

/-- A refused attempt fails alike wherever the text stands. -/
theorem isLocal_refused : (refused : Parser α).IsLocal := fun _ _ => rfl

/-- An edge adds its own events, which are at its cursor, and a box. -/
theorem isLocal_edge {parser : Parser Value} (h : parser.IsLocal) : (edge parser).IsLocal := by
  intro front s
  simp only [edge, h front s]
  cases hanswer : (parser s).answer with
  | ok outcome =>
    simp only [Run.behind, hanswer, Except.map, List.cons_append, List.map_cons, List.map_append]
    cases outcome <;> rfl
  | error e =>
    simp only [Run.behind, hanswer, Except.map]
    split
    · simp only [List.cons_append, List.map_cons, List.map_append]
      rfl
    · rfl

/-- A literal of one character is read as that character. -/
theorem isLocal_literal (text : String) : (literal text).IsLocal := by
  by_cases hsingle : ∃ c, text.toList = [c]
  · obtain ⟨c, hc⟩ := hsingle
    rw [literal_singleton hc]
    exact isLocal_map (isLocal_charOf _ _) _
  · rw [literal_of_ne_singleton fun c hc => hsingle ⟨c, hc⟩]
    exact isLocal_phrase text

/-! ### Lists of parts -/

section Lists

variable {parse : ι → Parser α} {items : List ι}

/-- A sequence does not see where the text stands if its parts do not. -/
theorem isLocal_sequence (h : ∀ i ∈ items, (parse i).IsLocal) :
    (sequence (items.map parse)).IsLocal := by
  induction items with
  | nil =>
    intro front s
    exact Run.matchTo_behind _ _ _
  | cons i items ih =>
    have hlater := ih fun j hj => h j (List.mem_cons_of_mem _ hj)
    intro front s
    apply Run.ifMatched_behind (h i List.mem_cons_self front s)
    intro m _
    apply Run.ifMatched_behind (hlater front m.rest)
    exact fun _ _ => Run.matchTo_behind _ _ _

/-- The results of attempts at the same characters. -/
def attemptsBehind (front : Array Char) :
    Except (List Failure) (Match α) → Except (List Failure) (Match α)
  | .ok m => .ok (m.behind front)
  | .error failures => .error (failures.map (Failure.behind front))

/-- The first match is the same one wherever the text stands. -/
theorem firstMatch_behind (h : ∀ i ∈ items, (parse i).IsLocal) (front : Array Char) (s : Cursor) :
    firstMatch (items.map parse) (s.behind front) =
      (firstMatch (items.map parse) s).behind front (attemptsBehind front) := by
  induction items with
  | nil => rfl
  | cons i items ih =>
    have hlater := ih fun j hj => h j (List.mem_cons_of_mem _ hj)
    apply Run.bind_behind (h i List.mem_cons_self front s)
    intro outcome _
    cases outcome with
    | matched m => rfl
    | failed f =>
      apply Run.bind_behind hlater
      intro result _
      cases result <;> rfl

/-- A choice does not see where the text stands if its alternatives do not and if its announcement
moves along. -/
theorem isLocal_choice {exhausted : Nat → Nat → Event}
    (hexhausted : ∀ front count pos,
      (exhausted count pos).behind front = exhausted count (front.size + pos))
    (h : ∀ i ∈ items, (parse i).IsLocal) : (choice exhausted (items.map parse)).IsLocal := by
  intro front s
  apply Run.bind_behind (firstMatch_behind h front s)
  intro result _
  cases result with
  | ok m => rfl
  | error failures =>
    have hevent : Run.emit (exhausted (failures.map (Failure.behind front)).length
        (s.behind front).pos) =
          (Run.emit (exhausted failures.length s.pos)).behind front id := by
      rw [Run.emit_behind, hexhausted, List.length_map, Cursor.pos_behind]
    apply Run.bind_behind hevent
    intro _ _
    rw [Run.failed_behind, Failure.behind, failuresBehind_eq_map]

end Lists

/-! ### Repetitions -/

/-- A repetition of a parser that only moves forward makes no more attempts than there are
characters, so it does not matter how many are allowed beyond that. -/
theorem repeatFrom_behind {empty : Prop} (h : parser.IsLocal) (hadvances : parser.Advances empty)
    {attempts attempts' : Nat} {front : Array Char} {s : Cursor}
    (hattempts : s.remaining < attempts)
    (hattempts' : s.remaining < attempts') :
    repeatFrom parser attempts' (s.behind front) =
      (repeatFrom parser attempts s).behind front (Prod.map id (Cursor.behind front)) := by
  induction attempts generalizing attempts' s with
  | zero => omega
  | succ attempts ih =>
    obtain ⟨attempts', rfl⟩ : ∃ count, attempts' = count + 1 := ⟨attempts' - 1, by omega⟩
    apply Run.bind_behind (h front s)
    intro outcome houtcome
    cases outcome with
    | failed f => rfl
    | matched m =>
      have hm : m.Advances s empty := (hadvances s).of_ok houtcome
      have hmoved : (m.behind front).rest.pos = (s.behind front).pos ↔ m.rest.pos = s.pos := by
        simp only [Match.behind, Cursor.pos_behind]
        omega
      simp only [Outcome.behind, hmoved]
      by_cases hpos : m.rest.pos = s.pos
      · simp only [if_pos hpos]
        have hcut : Run.emit (.repetitionCut (s.behind front).pos) =
            (Run.emit (.repetitionCut s.pos)).behind front id := rfl
        exact Run.bind_behind hcut fun _ _ => rfl
      · have hless := hm.leads.remaining_lt hpos
        simp only [if_neg hpos]
        exact Run.bind_behind (ih (by omega) (by omega)) fun _ _ => rfl

/-- A repetition does not see where the text stands if its parser does not. -/
theorem isLocal_many {empty : Prop} (h : parser.IsLocal) (hadvances : parser.Advances empty) :
    (many parser).IsLocal := by
  intro front s
  have hmoved := attemptsIn_enough (s.behind front)
  rw [Cursor.remaining_behind] at hmoved
  apply Run.bind_behind (repeatFrom_behind h hadvances (attemptsIn_enough s) hmoved)
  exact fun _ _ => Run.matchTo_behind _ _ _

/-- A repetition that must match does not see where the text stands if its parser does not. -/
theorem isLocal_many1 {empty : Prop} (h : parser.IsLocal) (hadvances : parser.Advances empty) :
    (many1 parser).IsLocal := by
  intro front s
  apply Run.ifMatched_behind (h front s)
  intro m _
  have hmoved := attemptsIn_enough (m.rest.behind front)
  rw [Cursor.remaining_behind] at hmoved
  apply Run.bind_behind (repeatFrom_behind h hadvances (attemptsIn_enough m.rest) hmoved)
  exact fun _ _ => Run.matchTo_behind _ _ _

/-! ### Products -/

/-- Blanks are skipped alike, or not at all, wherever the text stands. -/
theorem skipBlanksIf_behind (skips : Bool) (front : Array Char) (s : Cursor) :
    skipBlanksIf skips (s.behind front) =
      (skipBlanksIf skips s).behind front (Cursor.behind front) := by
  cases skips with
  | false => rfl
  | true =>
    simp only [skipBlanksIf, if_true, skipBlanks_eq, Cursor.afterBlanks_behind]
    rfl

/-- A rejected value is shown wherever the text stands. -/
theorem isLocal_reject (field : Option String) (value : Value) :
    (reject field value : Parser α).IsLocal := by
  intro front s
  cases hwritable : value.isWritable with
  | true =>
    rw [reject_of_writable hwritable, reject_of_writable hwritable]
    rfl
  | false =>
    rw [reject_of_not_writable hwritable, reject_of_not_writable hwritable]
    rfl

/-- A step does not see where the text stands if its parser and its check do not. -/
theorem isLocal_stepFields {step : Step Run (Parser Value)} (h : step.parser.IsLocal)
    (hcheck : ∀ value, (accepts step value).IsPlaceless) : (stepFields step).IsLocal := by
  intro front s
  apply Run.ifMatched_behind (h front s)
  intro m _
  apply Run.bind_behind (hcheck m.value front)
  intro accepted _
  cases accepted with
  | false => exact isLocal_reject step.field m.value front s
  | true => exact Run.matchTo_behind _ _ _

section Steps

variable {step : ι → Step Run (Parser Value)} {items : List ι}

/-- Steps do not see where the text stands if none of them does. -/
theorem isLocal_laterFields (skips : Bool) (h : ∀ i ∈ items, (stepFields (step i)).IsLocal) :
    (laterFields skips (items.map step)).IsLocal := by
  induction items with
  | nil =>
    intro front s
    exact Run.matchTo_behind _ _ _
  | cons i items ih =>
    have hlater := ih fun j hj => h j (List.mem_cons_of_mem _ hj)
    intro front s
    apply Run.bind_behind (skipBlanksIf_behind skips front s)
    intro place _
    apply Run.ifMatched_behind (h i List.mem_cons_self front place)
    intro first _
    apply Run.ifMatched_behind (hlater front first.rest)
    exact fun _ _ => Run.matchTo_behind _ _ _

/-- A product does not see where the text stands if its steps and its builder do not. -/
theorem isLocal_product {build : List (String × Value) → Run Value}
    {skipsBetween skipsAround : Bool} (hbuild : ∀ fields, (build fields).IsPlaceless)
    (h : ∀ i ∈ items, (stepFields (step i)).IsLocal) :
    (product ⟨build, items.map step, skipsBetween, skipsAround⟩).IsLocal := by
  have hfields : (fields skipsBetween (items.map step)).IsLocal := by
    intro front s
    cases items with
    | nil => exact Run.matchTo_behind _ _ _
    | cons i items =>
      have hlater := isLocal_laterFields skipsBetween fun j hj => h j (List.mem_cons_of_mem _ hj)
      apply Run.ifMatched_behind (h i List.mem_cons_self front s)
      intro first _
      apply Run.ifMatched_behind (hlater front first.rest)
      exact fun _ _ => Run.matchTo_behind _ _ _
  intro front s
  apply Run.bind_behind (skipBlanksIf_behind skipsAround front s)
  intro place _
  apply Run.ifMatched_behind (hfields front place)
  intro m _
  apply Run.bind_behind (skipBlanksIf_behind skipsAround front m.rest)
  intro rest _
  apply Run.bind_behind (hbuild m.value front)
  exact fun _ _ => Run.matchTo_behind _ _ _

end Steps

end TextGrammar.Parser
