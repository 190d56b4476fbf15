import TextGrammar.Proofs.Grammar.Iteration

/-!
# Options and repetitions

A repetition and an option can both do without a match, so one around the other says the same
twice. A repetition of an option does not end with an attempt that fails but with one that reads
nothing, and the default that this attempt has for its value is not among the values. An optional
repetition of at least one match is a repetition, except where the first match reads nothing: that
match ends the one and counts in the other.
-/

namespace TextGrammar

namespace Parser

variable {α : Type} {parser : Parser α} {s t : Cursor} {m : Match α} {ms : List (Match α)}

/-! ### Options -/

/-- An option matches as its parser does. -/
theorem optional_of_matched (hmatched : (parser s).answer = .ok (.matched m)) (default : α) :
    (optional parser default s).answer = .ok (.matched m) := by
  rw [optional, Run.bind_of_ok hmatched]
  rfl

/-- An option of what fails matches the default and reads nothing. -/
theorem optional_of_failed {f : Failure} (hfailed : (parser s).answer = .ok (.failed f))
    (default : α) :
    (optional parser default s).answer = .ok (.matched (s.matchTo default s)) := by
  rw [optional, Run.bind_of_ok hfailed]
  rfl

/-- An option does not recover from a fault. -/
theorem optional_of_error {e : Fault} (herror : (parser s).answer = .error e) (default : α) :
    (optional parser default s).answer = .error e := by
  rw [optional, Run.bind_of_error herror]

/-- An option ends with a fault exactly if its part does. -/
theorem optional_answer_map {β : Type} (parser : Parser α) (default : α) (t : Cursor) (b : β) :
    ((optional parser default t).answer.map fun _ => b) = (parser t).answer.map fun _ => b := by
  cases hanswer : (parser t).answer with
  | error e => rw [optional_of_error hanswer]
  | ok outcome =>
    cases outcome with
    | matched m => rw [optional_of_matched hanswer]
    | failed f =>
      rw [optional_of_failed hanswer]
      rfl

/-! ### Repetitions of options -/

/-- The matches of a part are matches of the option. -/
theorem Chain.optional (h : parser.Chain s ms t) (default : α) :
    (optional parser default).Chain s ms t := by
  induction h with
  | nil => exact .nil
  | cons hmatched hpos _ ih => exact .cons (optional_of_matched hmatched default) hpos ih

/-- Where a part reads nothing or fails, the option reads nothing. -/
theorem StopsAt.optional (h : parser.StopsAt t) (default : α) :
    (optional parser default).StopsAt t := by
  intro m hmatched
  cases hanswer : (parser t).answer with
  | error e =>
    rw [optional_of_error hanswer] at hmatched
    cases hmatched
  | ok outcome =>
    cases outcome with
    | matched m' =>
      rw [optional_of_matched hanswer] at hmatched
      cases hmatched
      exact h m hanswer
    | failed f =>
      rw [optional_of_failed hanswer] at hmatched
      cases hmatched
      rfl

/-- A repetition of an option takes the course of a repetition of its part. -/
theorem Repeats.optional (h : parser.Repeats s ms t) (default : α) :
    (optional parser default).Repeats s ms t :=
  ⟨h.chain.optional default, h.stops.optional default, h.increasing, h.length_le⟩

/-- The default of a repeated option is never among the values. -/
theorem many_optional_answer (hforward : parser.MovesForward) (default : α) (s : Cursor) :
    (many (optional parser default) s).answer = (many parser s).answer := by
  obtain ⟨ms, t, hrepeats⟩ := exists_repeats hforward s
  rw [(hrepeats.optional default).many_eq, hrepeats.many_eq]
  exact optional_answer_map parser default t _

/-! ### Optional repetitions -/

/-- Where an attempt does not read anything, a repetition has no values. -/
theorem many_of_stopsAt (hforward : parser.MovesForward) (hstops : parser.StopsAt s) :
    (many parser s).answer = (parser s).answer.map fun _ => .matched (s.matchTo [] s) :=
  congrArg Run.answer (Chain.nil.repeats hforward hstops).many_eq

/-- Unless the first match reads nothing, a repetition of at least one match that may be left out is
a repetition. -/
theorem optional_many1_answer (hforward : parser.MovesForward)
    (hreads : ∀ m, (parser s).answer = .ok (.matched m) → m.rest.pos ≠ s.pos) :
    (optional (many1 parser) [] s).answer = (many parser s).answer := by
  cases hanswer : (parser s).answer with
  | error e =>
    have hmany1 : (many1 parser s).answer = .error e := by
      rw [many1_eq_ifMatched, Run.ifMatched_of_error hanswer]
    have hmany := many_of_stopsAt (s := s) hforward fun m hm => by rw [hanswer] at hm; cases hm
    rw [optional_of_error hmany1, hmany, hanswer]
    rfl
  | ok outcome =>
    cases outcome with
    | failed f =>
      have hmany1 := (many1_failed_iff hforward s f).mpr hanswer
      have hmany := many_of_stopsAt (s := s) hforward fun m hm => by rw [hanswer] at hm; cases hm
      rw [optional_of_failed hmany1, hmany, hanswer]
      rfl
    | matched m =>
      -- behind a first match that reads something the two go on alike
      have hleads := hforward s m hanswer
      have hpos : s.pos < m.rest.pos :=
        Nat.lt_of_le_of_ne hleads.pos_le (Ne.symm (hreads m hanswer))
      obtain ⟨ms, t, hlater⟩ := exists_repeats hforward m.rest
      have hwhole : parser.Repeats s (m :: ms) t :=
        (Chain.cons hanswer hpos hlater.chain).repeats hforward hlater.stops
      have hmany1 := congrArg Run.answer (hlater.many1_eq hanswer)
      rw [hwhole.many_eq]
      cases hlast : (parser t).answer with
      | error e =>
        rw [hlast] at hmany1
        exact optional_of_error hmany1 []
      | ok outcome =>
        rw [hlast] at hmany1
        exact optional_of_matched hmany1 []

/-- A match that reads nothing ends a repetition, and counts where there must be a match. -/
theorem many_and_many1_of_empty (hforward : parser.MovesForward)
    (hmatched : (parser s).answer = .ok (.matched m)) (hempty : m.rest.pos = s.pos) :
    (many parser s).answer = .ok (.matched (s.matchTo [] s)) ∧
      (many1 parser s).answer = .ok (.matched (s.matchTo [m.value] s)) := by
  have hrest : m.rest = s := (hforward s m hmatched).eq_of_pos_eq hempty
  have hstops : parser.StopsAt s := by
    intro m' hmatched'
    rw [hmatched] at hmatched'
    cases hmatched'
    exact hempty
  have hlater : parser.Repeats m.rest [] s := by
    rw [hrest]
    exact Chain.nil.repeats hforward hstops
  constructor
  · rw [many_of_stopsAt hforward hstops, hmatched]
    rfl
  · rw [hlater.many1_eq hmatched, hmatched]
    rfl

/-! ### Values that are changed -/

/-- A change of the value sees the answer alone. -/
theorem map_answer_congr {β : Type} {parser parser' : Parser α} (f : α → β)
    (h : (parser s).answer = (parser' s).answer) :
    (map f parser s).answer = (map f parser' s).answer := by
  cases hanswer : (parser' s).answer with
  | error e =>
    rw [map, Run.ifMatched_of_error (h.trans hanswer), map, Run.ifMatched_of_error hanswer]
  | ok outcome =>
    cases outcome with
    | failed failure =>
      rw [map, Run.ifMatched_of_failed (h.trans hanswer), map, Run.ifMatched_of_failed hanswer]
    | matched m =>
      rw [map_answer_of_matched f (h.trans hanswer), map_answer_of_matched f hanswer]

/-- A default is changed like the other values. -/
theorem optional_map {β : Type} (parser : Parser α) (f : α → β) (default : α) :
    optional (map f parser) (f default) = map f (optional parser default) := by
  funext s
  simp only [optional, map, Run.ifMatched, Run.bind_assoc]
  congr 1
  funext outcome
  cases outcome <;> rfl

end Parser

/-! ### Grammars -/

variable {defs : Definitions} {limit : Nat}

/-- How options and repetitions of a grammar that never goes back are related. Repeating an option
reads what repeating the grammar reads, whatever the default is. A repetition of at least one match
with the empty list for a default reads what a repetition reads, with the same start, end and tag,
except where the grammar matches without reading anything. There a repetition has no values, one of
at least one match has that value, and neither reads anything. -/
theorem Grammar.parserWithin_optional_repetition {g : Grammar}
    (hforward : (g.parserWithin defs limit).MovesForward) (s : Cursor) :
    (∀ default, ((Grammar.many (.optional g default)).parserWithin defs limit s).answer =
      ((Grammar.many g).parserWithin defs limit s).answer) ∧
    ((∀ m, (g.parserWithin defs limit s).answer = .ok (.matched m) → m.rest.pos ≠ s.pos) →
      ((Grammar.optional (.many1 g) (.list [])).parserWithin defs limit s).answer =
        ((Grammar.many g).parserWithin defs limit s).answer) ∧
    (∀ m, (g.parserWithin defs limit s).answer = .ok (.matched m) → m.rest.pos = s.pos →
      ((Grammar.many g).parserWithin defs limit s).answer =
          .ok (.matched (s.matchTo (.list []) s)) ∧
        ((Grammar.many1 g).parserWithin defs limit s).answer =
          .ok (.matched (s.matchTo (.list [m.value]) s))) := by
  simp only [Grammar.parserWithin_many, Grammar.parserWithin_many1, Grammar.parserWithin_optional]
  refine ⟨fun default => ?_, fun hreads => ?_, fun m hmatched hempty => ?_⟩
  · exact Parser.map_answer_congr _ (Parser.many_optional_answer hforward default s)
  · rw [Parser.optional_map]
    exact Parser.map_answer_congr _ (Parser.optional_many1_answer hforward hreads)
  · obtain ⟨hmany, hmany1⟩ := Parser.many_and_many1_of_empty hforward hmatched hempty
    exact ⟨Parser.map_answer_of_matched _ hmany, Parser.map_answer_of_matched _ hmany1⟩

/-- A digit, or nothing at all. -/
def digitOrNothing : Grammar := .oneOf [.leaf .digit, .leaf .nothing]

/-- Reading a digit or nothing only moves forward. -/
theorem digitOrNothing_movesForward : (digitOrNothing.parserWithin ⟨[]⟩ 1).MovesForward := by
  have hstandard : digitOrNothing.IsStandard ⟨[]⟩ := by
    apply Grammar.isStandard_of_exits
    simp [digitOrNothing, Definitions.exits, Grammar.exits, exitsOfParts]
  exact (Grammar.parserWithin_advances hstandard 1).movesForward

set_option maxRecDepth 4000 in
/-- What comes of an optional digit in front of a digit, in front of a letter and repeatedly. -/
theorem digitOrNothing_answers :
    (digitOrNothing.parserWithin ⟨[]⟩ 1 (.ofText "12x")).answer =
        .ok (.matched ((Cursor.ofText "12x").matchTo (.int 1) ((Cursor.ofText "12x").skip 1))) ∧
      (digitOrNothing.parserWithin ⟨[]⟩ 1 (.ofText "x")).answer =
        .ok (.matched ((Cursor.ofText "x").matchTo .null (.ofText "x"))) ∧
      ((Grammar.many digitOrNothing).parserWithin ⟨[]⟩ 1 (.ofText "12x")).answer =
        .ok (.matched ((Cursor.ofText "12x").matchTo (.list [.int 1, .int 2])
          ((Cursor.ofText "12x").skip 2))) := by
  refine ⟨?_, ?_, ?_⟩ <;> cbv

/-- Two digits are a list in all three ways; where there is none, the match that reads nothing is a
value of a repetition only if there must be one. -/
theorem digitOrNothing_repetition :
    (digitOrNothing.parserWithin ⟨[]⟩ 1).MovesForward ∧
      ((Grammar.many (.optional digitOrNothing (.int 7))).parserWithin ⟨[]⟩ 1
          (.ofText "12x")).answer =
        .ok (.matched ((Cursor.ofText "12x").matchTo (.list [.int 1, .int 2])
          ((Cursor.ofText "12x").skip 2))) ∧
      ((Grammar.optional (.many1 digitOrNothing) (.list [])).parserWithin ⟨[]⟩ 1
          (.ofText "12x")).answer =
        .ok (.matched ((Cursor.ofText "12x").matchTo (.list [.int 1, .int 2])
          ((Cursor.ofText "12x").skip 2))) ∧
      ((Grammar.many1 digitOrNothing).parserWithin ⟨[]⟩ 1 (.ofText "x")).answer =
        .ok (.matched ((Cursor.ofText "x").matchTo (.list [.null]) (.ofText "x"))) := by
  obtain ⟨hdigit, hnothing, hmany⟩ := digitOrNothing_answers
  obtain ⟨hoption, hlist, -⟩ :=
    Grammar.parserWithin_optional_repetition digitOrNothing_movesForward (.ofText "12x")
  obtain ⟨-, -, hempty⟩ :=
    Grammar.parserWithin_optional_repetition digitOrNothing_movesForward (.ofText "x")
  refine ⟨digitOrNothing_movesForward, (hoption _).trans hmany, (hlist ?_).trans hmany,
    (hempty _ hnothing rfl).2⟩
  intro m hm
  rw [hdigit] at hm
  cases hm
  decide

end TextGrammar
