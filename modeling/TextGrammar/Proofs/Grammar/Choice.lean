import Mathlib.Data.List.Forall2
import TextGrammar.Proofs.Grammar.Contract
import TextGrammar.Proofs.Grammar.Relation

/-!
# Ordered choice

A choice makes every attempt at the same cursor, in order, until one does not fail. Its match
is the match of that attempt. If all of them fail, it collects their failures, of which there
is a last one and a furthest one. Choices between grammars and sums of variants only differ in
what they announce when nothing matches.
-/

namespace TextGrammar

/-! ### The failures of all alternatives -/

namespace Failure

variable {s : Cursor} {failures : List Failure} {f : Failure}

/-- A failure is the first one of those that got furthest into the text. -/
structure IsFurthest (failures : List Failure) (index : Nat) (f : Failure) : Prop where
  getElem?_eq : failures[index]? = some f
  le_pos : ∀ g ∈ failures, g.pos ≤ f.pos
  lt_pos : ∀ earlier < index, ∀ g, failures[earlier]? = some g → g.pos < f.pos

/-- A failure is that of a choice whose alternatives have failed: it lies where they were attempted,
has their failures and a remark for each of them, and has a last and a furthest one. -/
structure Collects (s : Cursor) (failures : List Failure) (f : Failure) : Prop where
  eq_noneMatched : f = .noneMatched s failures
  cursor_eq : f.cursor = s
  notes_eq : f.notes = failures.map fun g => ⟨g.pos, g.message⟩
  last_eq : ∃ g, failures[failures.length - 1]? = some g ∧ last failures = .ok g
  furthest_eq : ∃ index g, IsFurthest failures index g ∧ furthest failures = .ok g ∧
    furthestIndex failures = .ok index

/-- The furthest failure has a place among the failures. -/
theorem exists_isFurthest (h : furthest? failures = some f) :
    ∃ index, IsFurthest failures index f := by
  induction failures generalizing f with
  | nil => cases h
  | cons g gs ih =>
    have hle := pos_le_furthest h
    cases hlater : furthest? gs with
    | none =>
      simp only [furthest?, hlater, Option.some.injEq] at h
      subst h
      exact ⟨0, rfl, hle, fun _ hearlier => absurd hearlier (Nat.not_lt_zero _)⟩
    | some g' =>
      simp only [furthest?, hlater] at h
      split at h
      · next hpos =>
        -- the first failure is passed only by one that got further, so a tie goes to it
        rw [Option.some.injEq] at h
        subst h
        obtain ⟨index, hindex⟩ := ih hlater
        refine ⟨index + 1, hindex.getElem?_eq, hle, ?_⟩
        intro earlier hearlier first hfirst
        cases earlier with
        | zero =>
          cases hfirst
          exact hpos
        | succ earlier => exact hindex.lt_pos earlier (Nat.lt_of_succ_lt_succ hearlier) first hfirst
      · rw [Option.some.injEq] at h
        subst h
        exact ⟨0, rfl, hle, fun _ hearlier => absurd hearlier (Nat.not_lt_zero _)⟩

/-- The place that is reported for the furthest failure is the first one of its position. -/
theorem IsFurthest.furthestIndex_eq {index : Nat} (h : IsFurthest failures index f)
    (hfurthest : furthest? failures = some f) : furthestIndex failures = .ok index := by
  rw [furthestIndex, hfurthest]
  obtain ⟨hindex, hget⟩ := List.getElem?_eq_some_iff.mp h.getElem?_eq
  refine congrArg Except.ok ((List.findIdx_eq hindex).mpr ⟨?_, ?_⟩)
  · simp [hget]
  · intro earlier hearlier
    have hlt := h.lt_pos earlier hearlier _
      (List.getElem?_eq_getElem (Nat.lt_trans hearlier hindex))
    simpa using Nat.ne_of_lt hlt

/-- A choice that fails collects the failures of its alternatives. -/
theorem collects_noneMatched (s : Cursor) (h : failures ≠ []) :
    Collects s failures (.noneMatched s failures) where
  eq_noneMatched := rfl
  cursor_eq := rfl
  notes_eq := rfl
  last_eq := by
    refine ⟨failures.getLast h, ?_, ?_⟩
    · rw [← List.getLast?_eq_getElem?, List.getLast?_eq_some_getLast h]
    · rw [last, List.getLast?_eq_some_getLast h]
  furthest_eq := by
    cases hfurthest : furthest? failures with
    | none => exact absurd (furthest?_eq_none_iff.mp hfurthest) h
    | some g =>
      obtain ⟨index, hindex⟩ := exists_isFurthest hfurthest
      exact ⟨index, g, hindex, by rw [furthest, hfurthest], hindex.furthestIndex_eq hfurthest⟩

end Failure

/-! ### The attempts of a choice -/

namespace Parser

variable {α : Type} {before : List (Parser α)} {s : Cursor} {failures : List Failure}

/-- Some parsers fail at a cursor, one failure each. -/
def FailAt (s : Cursor) (parsers : List (Parser α)) (failures : List Failure) : Prop :=
  List.Forall₂ (fun parser f => (parser s).answer = .ok (.failed f)) parsers failures

/-- What happens in attempts of some parsers at one cursor. -/
def eventsAt (s : Cursor) (parsers : List (Parser α)) : List Event :=
  parsers.flatMap fun parser => (parser s).events

/-- An ordered choice at a cursor. The alternatives are attempted there in order, up to the first
that does not fail; its match or its fault is that of the choice. If there is no such alternative,
the choice announces so and collects the failures. -/
inductive Chooses (exhausted : Nat → Event) (parsers : List (Parser α)) (s : Cursor) :
    Run (Outcome α) → Prop
  | matched {before after : List (Parser α)} {parser : Parser α} {failures : List Failure}
      {m : Match α} (hparsers : parsers = before ++ parser :: after)
      (hbefore : FailAt s before failures) (hmatched : (parser s).answer = .ok (.matched m)) :
      Chooses exhausted parsers s ⟨eventsAt s (before ++ [parser]), .ok (.matched m)⟩
  | raised {before after : List (Parser α)} {parser : Parser α} {failures : List Failure}
      {e : Fault} (hparsers : parsers = before ++ parser :: after)
      (hbefore : FailAt s before failures) (hraised : (parser s).answer = .error e) :
      Chooses exhausted parsers s ⟨eventsAt s (before ++ [parser]), .error e⟩
  | noneMatched {failures : List Failure} {f : Failure} (hfailures : FailAt s parsers failures)
      (hcollects : f.Collects s failures) :
      Chooses exhausted parsers s
        ⟨eventsAt s parsers ++ [exhausted parsers.length], .ok (.failed f)⟩

/-- Behind alternatives that fail the others are attempted. -/
theorem firstMatch_append (h : FailAt s before failures) (later : List (Parser α)) :
    firstMatch (before ++ later) s =
      ⟨eventsAt s before ++ (firstMatch later s).events,
        (firstMatch later s).answer.map (·.mapError (failures ++ ·))⟩ := by
  induction h with
  | nil =>
    rw [List.nil_append]
    rcases firstMatch later s with ⟨events, e | f | m⟩ <;> rfl
  | @cons parser f before failures hfailed hbefore ih =>
    rw [List.cons_append, firstMatch, Run.bind_of_ok hfailed, ih]
    rcases firstMatch later s with ⟨events, e | fs | m⟩ <;>
      simp [Run.bind, Run.pure, eventsAt, Except.map, Except.mapError]

/-- Where all parsers fail, no match comes of trying them in order, and what happens is what happens
in each. -/
theorem firstMatch_of_failAt {parsers : List (Parser α)} (h : FailAt s parsers failures) :
    firstMatch parsers s = ⟨eventsAt s parsers, .ok (.error failures)⟩ := by
  have hall := firstMatch_append h []
  simpa [firstMatch, Except.map, Except.mapError] using hall

/-- A choice whose alternatives all fail has their failures. -/
theorem choice_of_failAt (exhausted : Nat → Nat → Event) {parsers : List (Parser α)}
    (h : FailAt s parsers failures) :
    (choice exhausted parsers s).answer = .ok (.failed (.noneMatched s failures)) := by
  rw [choice, firstMatch_of_failAt h]
  rfl

/-- A choice answers like the first alternative that does not fail. -/
theorem choice_of_first (exhausted : Nat → Nat → Event) {parser : Parser α}
    (hbefore : FailAt s before failures) (hfirst : ∀ f, (parser s).answer ≠ .ok (.failed f))
    (after : List (Parser α)) :
    (choice exhausted (before ++ parser :: after) s).answer = (parser s).answer := by
  rw [choice, firstMatch_append hbefore, firstMatch]
  cases hanswer : (parser s).answer with
  | error e =>
    rw [Run.bind_of_error hanswer]
    rfl
  | ok outcome =>
    cases outcome with
    | failed f => exact absurd hanswer (hfirst f)
    | matched m =>
      rw [Run.bind_of_ok hanswer]
      rfl

/-- All alternatives fail, or there is a first one that does not. -/
theorem failAt_or_exists (parsers : List (Parser α)) (s : Cursor) :
    (∃ failures, FailAt s parsers failures) ∨
      ∃ before parser after failures, parsers = before ++ parser :: after ∧
        FailAt s before failures ∧ ∀ f, (parser s).answer ≠ .ok (.failed f) := by
  induction parsers with
  | nil => exact .inl ⟨[], .nil⟩
  | cons parser parsers ih =>
    by_cases hfailed : ∃ f, (parser s).answer = .ok (.failed f)
    · obtain ⟨f, hf⟩ := hfailed
      rcases ih with ⟨failures, hall⟩ | ⟨before, next, after, failures, rfl, hbefore, hnext⟩
      · exact .inl ⟨f :: failures, .cons hf hall⟩
      · exact .inr ⟨parser :: before, next, after, f :: failures, rfl, .cons hf hbefore, hnext⟩
    · exact .inr ⟨[], parser, parsers, [], rfl, .nil, not_exists.mp hfailed⟩

/-- What a choice has matched is the match of the first alternative that does not fail. -/
theorem exists_of_choice {ι : Type} {exhausted : Nat → Nat → Event} {parse : ι → Parser α}
    {items : List ι} {m : Match α}
    (h : (choice exhausted (items.map parse) s).answer = .ok (.matched m)) :
    ∃ before item after failures, items = before ++ item :: after ∧
      FailAt s (before.map parse) failures ∧ (parse item s).answer = .ok (.matched m) := by
  rcases failAt_or_exists (items.map parse) s with
    ⟨failures, hall⟩ | ⟨before, parser, after, failures, hitems, hbefore, hfirst⟩
  · rw [choice_of_failAt exhausted hall] at h
    cases h
  · rw [hitems, choice_of_first exhausted hbefore hfirst] at h
    obtain ⟨earlier, later, rfl, rfl, hlater⟩ := List.map_eq_append_iff.mp hitems
    obtain ⟨item, others, rfl, rfl, rfl⟩ := List.map_eq_cons_iff.mp hlater
    exact ⟨earlier, item, others, failures, rfl, hbefore, h⟩

/-- When a choice fails, all its alternatives have failed one behind the other. -/
theorem exists_of_choice_failed {exhausted : Nat → Nat → Event} {parsers : List (Parser α)}
    {f : Failure} (h : (choice exhausted parsers s).answer = .ok (.failed f)) :
    ∃ failures, f = .noneMatched s failures ∧ FailAt s parsers failures ∧
      (choice exhausted parsers s).events =
        eventsAt s parsers ++ [exhausted failures.length s.pos] := by
  rcases failAt_or_exists parsers s with
    ⟨failures, hall⟩ | ⟨before, parser, after, failures, rfl, hbefore, hfirst⟩
  · rw [choice_of_failAt exhausted hall] at h
    cases h
    refine ⟨failures, rfl, hall, ?_⟩
    rw [choice, firstMatch_of_failAt hall]
    rfl
  · rw [choice_of_first exhausted hbefore hfirst] at h
    exact absurd h (hfirst f)

/-- A choice takes the first alternative that does not fail. -/
theorem choice_chooses (exhausted : Nat → Nat → Event) (parser : Parser α)
    (parsers : List (Parser α)) (s : Cursor) :
    Chooses (exhausted · s.pos) (parser :: parsers) s (choice exhausted (parser :: parsers) s) := by
  rcases failAt_or_exists (parser :: parsers) s with
    ⟨failures, hall⟩ | ⟨before, first, after, failures, hparsers, hbefore, hfirst⟩
  · have hevents : firstMatch (parser :: parsers) s =
        ⟨eventsAt s (parser :: parsers), .ok (.error failures)⟩ := firstMatch_of_failAt hall
    have hcollects : (Failure.noneMatched s failures).Collects s failures := by
      apply Failure.collects_noneMatched
      rintro rfl
      cases hall
    have hchooses : Chooses (exhausted · s.pos) (parser :: parsers) s _ :=
      .noneMatched hall hcollects
    rw [hall.length_eq] at hchooses
    rw [choice, hevents]
    exact hchooses
  · -- the failures before the first other answer are forgotten
    rw [choice, hparsers, firstMatch_append hbefore, firstMatch]
    cases hanswer : (first s).answer with
    | error e =>
      have hchooses : Chooses (exhausted · s.pos) (parser :: parsers) s _ :=
        .raised hparsers hbefore hanswer
      rw [Run.bind_of_error hanswer]
      simpa [Run.bind, Except.map, eventsAt, hparsers] using hchooses
    | ok outcome =>
      cases outcome with
      | failed f => exact absurd hanswer (hfirst f)
      | matched m =>
        have hchooses : Chooses (exhausted · s.pos) (parser :: parsers) s _ :=
          .matched hparsers hbefore hanswer
        rw [Run.bind_of_ok hanswer]
        simpa [Run.bind, Run.pure, Run.matched, Except.map, Except.mapError, eventsAt, hparsers]
          using hchooses

/-- What a choice announces does not change its answer. -/
theorem choice_answer (exhausted exhausted' : Nat → Nat → Event) (parsers : List (Parser α))
    (s : Cursor) : (choice exhausted parsers s).answer = (choice exhausted' parsers s).answer := by
  cases hanswer : (firstMatch parsers s).answer with
  | error e => rw [choice, Run.bind_of_error hanswer, choice, Run.bind_of_error hanswer]
  | ok result =>
    rw [choice, Run.bind_of_ok hanswer, choice, Run.bind_of_ok hanswer]
    cases result <;> rfl

end Parser

/-! ### Choices between grammars and between variants -/

variable {defs : Definitions}

/-- Reading by several grammars is reading by their parsers. -/
theorem map_parserWithin (limit : Nat) (gs : List Grammar) :
    gs.map (·.parserWithin defs limit) = parsers (edgeWithin defs limit) gs := by
  rw [parsers_eq_map]
  exact List.map_congr_left fun g _ => Grammar.parserWithin_eq limit g

/-- A sum is read like a choice between its variants, but for what it announces. -/
theorem Grammar.parserWithin_sum (variants : List (Variant (Except Fault) Grammar)) (limit : Nat) :
    (Grammar.sum variants).parserWithin defs limit =
      Parser.choice (fun _ pos => .variantsExhausted (variants.map (·.name)) pos)
        (variants.map fun v => (Grammar.variant v).parserWithin defs limit) := by
  rw [Grammar.parserWithin_eq, Grammar.parser, Parser.sum, variantParsers_eq_map,
    names_variantParser, List.map_map]
  simp only [Function.comp_def, Grammar.parserWithin_eq, Grammar.parser]

/-- Choices between grammars and sums of variants attempt their alternatives at one cursor, in
order, up to the first that does not fail. Its match is taken as it is; if there is none, the
failures of all alternatives are collected, which have a last and a furthest one. A sum and a
choice between the same variants have the same answer. -/
theorem Grammar.parserWithin_chooses (g : Grammar) (gs : List Grammar)
    (v : Variant (Except Fault) Grammar) (vs : List (Variant (Except Fault) Grammar))
    (limit : Nat) (s : Cursor) :
    Parser.Chooses (fun count => .alternativesExhausted count s.pos)
        ((g :: gs).map (·.parserWithin defs limit)) s
        ((Grammar.oneOf (g :: gs)).parserWithin defs limit s) ∧
      Parser.Chooses (fun _ => .variantsExhausted ((v :: vs).map (·.name)) s.pos)
        ((v :: vs).map fun v => (Grammar.variant v).parserWithin defs limit) s
        ((Grammar.sum (v :: vs)).parserWithin defs limit s) ∧
      ((Grammar.sum (v :: vs)).parserWithin defs limit s).answer =
        ((Grammar.oneOf ((v :: vs).map .variant)).parserWithin defs limit s).answer := by
  refine ⟨?_, ?_, ?_⟩
  · rw [Grammar.parserWithin_eq, Grammar.parser, ← map_parserWithin]
    exact Parser.choice_chooses .alternativesExhausted _ _ s
  · rw [Grammar.parserWithin_sum]
    exact Parser.choice_chooses _ _ _ s
  · rw [Grammar.parserWithin_sum, Grammar.parserWithin_eq (g := .oneOf _), Grammar.parser,
      ← map_parserWithin, List.map_map]
    exact Parser.choice_answer _ _ _ s

end TextGrammar
