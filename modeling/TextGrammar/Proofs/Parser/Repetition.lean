import Mathlib
import TextGrammar.Parser.Outermost
import TextGrammar.Proofs.Leaf.Local

/-!
# The course of a repetition

The attempts of a repetition follow one another. Each of them but the last one reads
something, so their positions increase and the characters that remain bound their number.
The last one fails, reads nothing or ends with a fault, and the values are those of the
attempts before it. Reading values one by one makes the same attempts.
-/

namespace TextGrammar

variable {α : Type}

namespace Parser

/-- No match ends before the cursor of its attempt. -/
def MovesForward (parser : Parser α) : Prop :=
  ∀ s m, (parser s).answer = .ok (.matched m) → s.LeadsTo m.rest

/-- Matches one behind the other, each of which reads something, from a cursor to another one. -/
inductive Chain (parser : Parser α) : Cursor → List (Match α) → Cursor → Prop
  | nil {s : Cursor} : Chain parser s [] s
  | cons {s t : Cursor} {m : Match α} {ms : List (Match α)}
      (hmatched : (parser s).answer = .ok (.matched m)) (hpos : s.pos < m.rest.pos)
      (hlater : Chain parser m.rest ms t) : Chain parser s (m :: ms) t

/-- An attempt at a cursor fails, reads nothing or ends with a fault. -/
def StopsAt (parser : Parser α) (t : Cursor) : Prop :=
  ∀ m, (parser t).answer = .ok (.matched m) → m.rest.pos = t.pos

/-- The cursors of the attempts: where the first one is made, and behind each match. -/
def attempts (s : Cursor) (ms : List (Match α)) : List Cursor := s :: ms.map (·.rest)

/-- The course of a repetition: matches that read something, up to an attempt that does not. -/
structure Repeats (parser : Parser α) (s : Cursor) (ms : List (Match α)) (t : Cursor) : Prop where
  chain : parser.Chain s ms t
  stops : parser.StopsAt t
  increasing : ((attempts s ms).map (·.pos)).Pairwise (· < ·)
  length_le : (attempts s ms).length ≤ s.remaining + 1

/-- What happens during the attempts at some cursors, each of which is noted under a label. -/
def attemptEvents (parser : Parser α) (label : String) (cursors : List Cursor) : List Event :=
  cursors.flatMap fun s => .probed label s.pos :: (parser s).events

/-- A repetition that stops at a match tells so. -/
def cutEvents (parser : Parser α) (t : Cursor) : List Event :=
  match (parser t).answer with
  | .ok (.matched _) => [.repetitionCut t.pos]
  | _ => []

variable {parser : Parser α} {s t : Cursor} {ms : List (Match α)}

/-- A parser that advances moves forward. -/
theorem Advances.movesForward {empty : Prop} (h : parser.Advances empty) : parser.MovesForward := by
  intro s m hmatched
  have hm : m.Advances s empty := (h s).of_ok hmatched
  exact hm.leads

/-! ### Chains -/

/-- As long as attempts read something, there is less and less to read. -/
theorem exists_chain (hforward : parser.MovesForward) (s : Cursor) :
    ∃ ms t, parser.Chain s ms t ∧ parser.StopsAt t := by
  by_cases hstops : parser.StopsAt s
  · exact ⟨[], s, .nil, hstops⟩
  · obtain ⟨m, hmatched, hpos⟩ : ∃ m, (parser s).answer = .ok (.matched m) ∧
        m.rest.pos ≠ s.pos := by
      simpa only [StopsAt, Classical.not_forall, exists_prop] using hstops
    -- an attempt that reads something leaves less for the next one
    have hleads := hforward s m hmatched
    have hless := hleads.remaining_lt hpos
    obtain ⟨ms, t, hchain, hstops⟩ := exists_chain hforward m.rest
    have hlt : s.pos < m.rest.pos := Nat.lt_of_le_of_ne hleads.pos_le (Ne.symm hpos)
    exact ⟨m :: ms, t, .cons hmatched hlt hchain, hstops⟩
termination_by s.remaining

/-- A chain of attempts has no more matches than there are characters. -/
theorem Chain.length_le (hforward : parser.MovesForward) (h : parser.Chain s ms t) :
    ms.length ≤ s.remaining := by
  induction h with
  | nil => exact Nat.zero_le _
  | cons hmatched hpos _ ih =>
    have hless := (hforward _ _ hmatched).remaining_lt (Nat.ne_of_gt hpos)
    exact Nat.lt_of_le_of_lt ih hless

/-- The attempts of a chain get further and further. -/
theorem Chain.increasing (h : parser.Chain s ms t) :
    ((attempts s ms).map (·.pos)).Pairwise (· < ·) := by
  rw [← List.isChain_iff_pairwise]
  induction h with
  | nil => exact List.IsChain.singleton _
  | cons _ hpos _ ih => exact List.IsChain.cons_cons hpos ih

/-- Only the answers decide which matches follow one another. -/
theorem Chain.of_answer_eq {other : Parser α} (hsame : ∀ s, (other s).answer = (parser s).answer)
    (h : parser.Chain s ms t) : other.Chain s ms t := by
  induction h with
  | nil => exact .nil
  | cons hmatched hpos _ ih => exact .cons ((hsame _).trans hmatched) hpos ih

/-- A chain of matches up to an attempt that does not read anything is the course of a
repetition. -/
theorem Chain.repeats (h : parser.Chain s ms t) (hforward : parser.MovesForward)
    (hstops : parser.StopsAt t) : parser.Repeats s ms t := by
  refine ⟨h, hstops, h.increasing, ?_⟩
  rw [attempts, List.length_cons, List.length_map]
  exact Nat.succ_le_succ (h.length_le hforward)

/-- Every repetition that moves forward takes its course. -/
theorem exists_repeats (hforward : parser.MovesForward) (s : Cursor) :
    ∃ ms t, parser.Repeats s ms t := by
  obtain ⟨ms, t, hchain, hstops⟩ := exists_chain hforward s
  exact ⟨ms, t, hchain.repeats hforward hstops⟩

/-- There are no more values than characters. -/
theorem Repeats.length_values_le (h : parser.Repeats s ms t) : ms.length ≤ s.remaining := by
  simpa only [attempts, List.length_cons, List.length_map, Nat.add_le_add_iff_right]
    using h.length_le

/-- There is nothing left to repeat where a repetition has stopped. -/
theorem Repeats.nil (h : parser.Repeats s ms t) : parser.Repeats t [] t :=
  ⟨.nil, h.stops, List.pairwise_singleton _ _, Nat.le_add_left _ _⟩

/-! ### Notes of attempts -/

/-- A probe does not change the answer. -/
@[simp] theorem probed_answer (label : String) (parser : Parser α) (s : Cursor) :
    (probed label parser s).answer = (parser s).answer := rfl

/-- A probe is the first thing that happens. -/
@[simp] theorem probed_events (label : String) (parser : Parser α) (s : Cursor) :
    (probed label parser s).events = .probed label s.pos :: (parser s).events := rfl

/-- Noting the attempts does not change them. -/
theorem Repeats.probed (h : parser.Repeats s ms t) (label : String) :
    (probed label parser).Repeats s ms t :=
  ⟨h.chain.of_answer_eq (probed_answer label parser), h.stops, h.increasing, h.length_le⟩

/-! ### Repetitions -/

/-- A repetition ends with the attempt that reads nothing. -/
theorem repeatFrom_of_stopsAt (hstops : parser.StopsAt t) (count : Nat) :
    repeatFrom parser (count + 1) t =
      ⟨(parser t).events ++ cutEvents parser t, (parser t).answer.map fun _ => ([], t)⟩ := by
  rw [repeatFrom]
  cases hanswer : (parser t).answer with
  | error e =>
    rw [Run.bind_of_error hanswer]
    simp [cutEvents, hanswer, Except.map]
  | ok outcome =>
    rw [Run.bind_of_ok hanswer]
    cases outcome with
    | failed f => simp [cutEvents, hanswer, Except.map]
    | matched m =>
      simp only [if_pos (hstops m hanswer)]
      simp [cutEvents, hanswer, Except.map, Run.bind]

/-- Behind a match that reads something a repetition goes on. -/
theorem repeatFrom_of_matched {m : Match α} (hmatched : (parser s).answer = .ok (.matched m))
    (hpos : s.pos < m.rest.pos) (count : Nat) :
    repeatFrom parser (count + 1) s =
      ⟨(parser s).events ++ (repeatFrom parser count m.rest).events,
        (repeatFrom parser count m.rest).answer.map fun (values, rest) =>
          (m.value :: values, rest)⟩ := by
  rw [repeatFrom, Run.bind_of_ok hmatched]
  simp only [if_neg (Nat.ne_of_gt hpos)]
  cases hlater : (repeatFrom parser count m.rest).answer with
  | error e => simp [Run.bind_of_error hlater, Except.map]
  | ok result => simp [Run.bind_of_ok hlater, Except.map]

/-- A repetition takes its course if it may make enough attempts. -/
theorem Chain.repeatFrom_eq (h : parser.Chain s ms t) (hstops : parser.StopsAt t) {count : Nat}
    (hcount : ms.length < count) :
    repeatFrom parser count s =
      ⟨(attempts s ms).flatMap (fun p => (parser p).events) ++ cutEvents parser t,
        (parser t).answer.map fun _ => (ms.map (·.value), t)⟩ := by
  induction h generalizing count with
  | nil =>
    obtain ⟨count, rfl⟩ := Nat.exists_eq_add_one_of_ne_zero (Nat.ne_zero_of_lt hcount)
    rw [repeatFrom_of_stopsAt hstops]
    simp [attempts]
  | @cons s t m ms hmatched hpos _ ih =>
    obtain ⟨count, rfl⟩ := Nat.exists_eq_add_one_of_ne_zero (Nat.ne_zero_of_lt hcount)
    rw [repeatFrom_of_matched hmatched hpos, ih hstops (Nat.lt_of_succ_lt_succ hcount)]
    cases (parser t).answer <;> simp [attempts, Except.map]

/-- The run of a repetition: what happens during its attempts, and the values of all but the
last. -/
theorem Repeats.many_eq (h : parser.Repeats s ms t) :
    many parser s =
      ⟨(attempts s ms).flatMap (fun p => (parser p).events) ++ cutEvents parser t,
        (parser t).answer.map fun _ => .matched (s.matchTo (ms.map (·.value)) t)⟩ := by
  have hcount := Nat.lt_of_le_of_lt h.length_values_le (attemptsIn_enough s)
  rw [many, h.chain.repeatFrom_eq h.stops hcount]
  cases (parser t).answer <;> simp [Except.map, Run.bind, Run.matched]

/-- A repetition with at least one match is a match and a repetition behind it. -/
theorem many1_eq_ifMatched (parser : Parser α) (s : Cursor) :
    many1 parser s = (parser s).ifMatched fun m =>
      (many parser m.rest).ifMatched fun later =>
        .matched (s.matchTo (m.value :: later.value) later.rest) := by
  simp only [many1, many, Run.ifMatched, Run.bind_assoc, Run.matched_bind, Cursor.matchTo_value,
    Cursor.matchTo_rest]

/-- Behind its first match, be it empty or not, a repetition takes its course. -/
theorem Repeats.many1_eq {m : Match α} (hmatched : (parser s).answer = .ok (.matched m))
    (h : parser.Repeats m.rest ms t) :
    many1 parser s =
      ⟨(parser s).events ++ (many parser m.rest).events,
        (parser t).answer.map fun _ => .matched (s.matchTo (m.value :: ms.map (·.value)) t)⟩ := by
  rw [many1_eq_ifMatched, Run.ifMatched_of_matched hmatched]
  cases hlast : (parser t).answer with
  | error e =>
    have hmany : (many parser m.rest).answer = .error e := by rw [h.many_eq, hlast]; rfl
    rw [Run.ifMatched_of_error hmany]
    rfl
  | ok outcome =>
    have hmany : (many parser m.rest).answer =
        .ok (.matched (m.rest.matchTo (ms.map (·.value)) t)) := by rw [h.many_eq, hlast]; rfl
    rw [Run.ifMatched_of_matched hmany]
    simp [Run.matched, Except.map]

/-- A repetition with at least one match fails exactly if its first attempt does, and then like
that. -/
theorem many1_failed_iff (hforward : parser.MovesForward) (s : Cursor) (f : Failure) :
    (many1 parser s).answer = .ok (.failed f) ↔ (parser s).answer = .ok (.failed f) := by
  cases hanswer : (parser s).answer with
  | error e =>
    simp [many1_eq_ifMatched, Run.ifMatched_of_error hanswer]
  | ok outcome =>
    cases outcome with
    | failed f' =>
      simp [many1_eq_ifMatched, Run.ifMatched_of_failed hanswer]
    | matched m =>
      obtain ⟨ms, t, hrepeats⟩ := exists_repeats hforward m.rest
      rw [hrepeats.many1_eq hanswer]
      cases (parser t).answer <;> simp [Except.map]

/-- What happens during a repetition whose attempts are noted. -/
theorem Repeats.many_probed_events (h : parser.Repeats s ms t) (label : String) :
    (many (Parser.probed label parser) s).events =
      attemptEvents parser label (attempts s ms) ++ cutEvents parser t :=
  congrArg Run.events (h.probed label).many_eq

/-- Repetitions end. One that may be empty never fails; it has the values of its matches, ends where
an attempt reads nothing, and from there on reads nothing. One that must have a match fails exactly
like its first attempt; else it has the value of that and goes on behind it. The positions of the
attempts increase strictly, after a first match that may be empty. -/
theorem many_repeats (hforward : parser.MovesForward) (s : Cursor) :
    (∃ ms t, parser.Repeats s ms t ∧
      (many parser s).answer =
        ((parser t).answer.map fun _ => .matched (s.matchTo (ms.map (·.value)) t)) ∧
      (many parser t).answer = ((parser t).answer.map fun _ => .matched (t.matchTo [] t)) ∧
      ∀ label, (many (Parser.probed label parser) s).events =
        attemptEvents parser label (attempts s ms) ++ cutEvents parser t) ∧
    (∀ f, (many1 parser s).answer = .ok (.failed f) ↔ (parser s).answer = .ok (.failed f)) ∧
    ∀ m, (parser s).answer = .ok (.matched m) →
      ∃ ms t, parser.Repeats m.rest ms t ∧ (s :: attempts m.rest ms).length ≤ s.remaining + 2 ∧
        (many1 parser s).answer =
          ((parser t).answer.map fun _ =>
            .matched (s.matchTo (m.value :: ms.map (·.value)) t)) ∧
        (many parser m.rest).answer =
          ((parser t).answer.map fun _ => .matched (m.rest.matchTo (ms.map (·.value)) t)) ∧
        ∀ label, (many1 (Parser.probed label parser) s).events =
          attemptEvents parser label (s :: attempts m.rest ms) ++ cutEvents parser t := by
  refine ⟨?_, many1_failed_iff hforward s, ?_⟩
  · obtain ⟨ms, t, h⟩ := exists_repeats hforward s
    have hmany := congrArg Run.answer h.many_eq
    have hagain := congrArg Run.answer h.nil.many_eq
    exact ⟨ms, t, h, hmany, hagain, h.many_probed_events⟩
  · intro m hmatched
    obtain ⟨ms, t, h⟩ := exists_repeats hforward m.rest
    have hmany1 := congrArg Run.answer (h.many1_eq hmatched)
    have hmany := congrArg Run.answer h.many_eq
    refine ⟨ms, t, h, ?_, hmany1, hmany, ?_⟩
    · have hleads := hforward s m hmatched
      have hlength := h.length_le
      have hremaining := hleads.remaining_le
      rw [List.length_cons]
      omega
    · intro label
      have hprobed : (Parser.probed label parser s).answer = .ok (.matched m) := hmatched
      rw [(h.probed label).many1_eq hprobed, h.many_probed_events]
      simp [attemptEvents]

/-- An optional digit only moves forward. -/
theorem optionalDigit_movesForward : (optional digit 0).MovesForward :=
  (advances_optional advances_digit 0).movesForward

set_option maxRecDepth 4000 in
/-- A repetition of optional digits reads all of them. -/
theorem many_optionalDigit :
    ∃ m, (many (optional digit 0) (.ofText "12x")).answer = .ok (.matched m) ∧
      m.value = [1, 2] ∧ m.rest.pos = 2 := by
  refine ⟨_, by cbv, rfl, rfl⟩

/-- A digit or nothing is read twice; the third attempt reads nothing and ends the repetition. -/
theorem optionalDigit_repeats :
    (optional digit 0).MovesForward ∧ ∃ ms t, (optional digit 0).Repeats (.ofText "12x") ms t ∧
      ms.map (·.value) = [1, 2] ∧ t.pos = 2 := by
  obtain ⟨ms, t, h, hmany, -⟩ := (many_repeats optionalDigit_movesForward (.ofText "12x")).1
  refine ⟨optionalDigit_movesForward, ms, t, h, ?_⟩
  obtain ⟨m, hanswer, hvalue, hpos⟩ := many_optionalDigit
  rw [hanswer] at hmany
  cases hlast : (optional digit 0 t).answer with
  | error e =>
    rw [hlast] at hmany
    cases hmany
  | ok outcome =>
    rw [hlast] at hmany
    cases hmany
    exact ⟨hvalue, hpos⟩

end Parser

/-! ### Values one by one -/

namespace Iteration

variable {parser : Parser α} {s t : Cursor} {ms : List (Match α)}

/-- An iteration never ends with a fault that says that there are no more values. -/
theorem kind_faultOf_ne (e : Fault) : (faultOf e).kind ≠ .exhausted := by
  rw [faultOf]
  split
  · exact nofun
  · next hkind => exact hkind

/-- No attempt of an iteration ends with such a fault. -/
theorem kind_ne_of_step {e : Fault} (h : (step parser s).1.answer = .error e) :
    e.kind ≠ .exhausted := by
  simp only [step] at h
  split at h
  · next e' _ =>
    cases h
    exact kind_faultOf_ne e'
  · cases h
  · cases h

/-- Asking for a value does not end with such a fault, whatever state the iteration is in. -/
theorem kind_ne_of_next {iteration : Iteration α} {e : Fault}
    (h : iteration.next.1.answer = .error e) : e.kind ≠ .exhausted := by
  cases iteration with
  | finished => cases h
  | going parser s => exact kind_ne_of_step h
  | pending start =>
    cases start with
    | error e' =>
      cases h
      exact kind_faultOf_ne e'
    | ok start => exact kind_ne_of_step h

/-- However many values are asked for, the end of an iteration is not mistaken: no fault by which it
ends says that there are no more values. -/
theorem kind_ne_of_take {e : Fault} (count : Nat) (iteration : Iteration α)
    (h : (iteration.take count).2.answer = .error e) : e.kind ≠ .exhausted := by
  induction count generalizing iteration with
  | zero => cases h
  | succ count ih =>
    simp only [take] at h
    split at h
    · next e' hnext =>
      cases h
      exact kind_ne_of_next hnext
    · cases h
    · exact ih _ h

/-- An iteration is over with the attempt that reads nothing. -/
theorem take_of_stopsAt (hstops : parser.StopsAt t) (count : Nat) :
    (going parser t).take (count + 1) =
      ([], ⟨(parser t).events, ((parser t).answer.mapError faultOf).map fun _ => ()⟩) := by
  simp only [take, next, step, attempt]
  cases hanswer : (parser t).answer with
  | error e => simp [Run.bind_of_error hanswer, Except.map, Except.mapError]
  | ok outcome =>
    cases outcome with
    | failed f => simp [Run.bind_of_ok hanswer, Except.map, Except.mapError]
    | matched m => simp [Run.bind_of_ok hanswer, hstops m hanswer, Except.map, Except.mapError]

/-- A match that reads something gives a value, and the iteration goes on behind it. -/
theorem take_of_matched {m : Match α} (hmatched : (parser s).answer = .ok (.matched m))
    (hpos : s.pos < m.rest.pos) (count : Nat) :
    (going parser s).take (count + 1) =
      let later := (going parser m.rest).take count
      (m.value :: later.1, ⟨(parser s).events ++ later.2.events, later.2.answer⟩) := by
  simp [take, next, step, attempt, Run.bind_of_ok hmatched, hpos]

/-- An iteration makes the attempts of a repetition and gives its values one by one. -/
theorem take_of_chain (h : parser.Chain s ms t) (hstops : parser.StopsAt t) {count : Nat}
    (hcount : ms.length < count) :
    (going parser s).take count =
      (ms.map (·.value), ⟨(Parser.attempts s ms).flatMap fun p => (parser p).events,
        ((parser t).answer.mapError faultOf).map fun _ => ()⟩) := by
  induction h generalizing count with
  | nil =>
    obtain ⟨count, rfl⟩ := Nat.exists_eq_add_one_of_ne_zero (Nat.ne_zero_of_lt hcount)
    rw [take_of_stopsAt hstops]
    simp [Parser.attempts]
  | @cons s t m ms hmatched hpos _ ih =>
    obtain ⟨count, rfl⟩ := Nat.exists_eq_add_one_of_ne_zero (Nat.ne_zero_of_lt hcount)
    rw [take_of_matched hmatched hpos, ih hstops (Nat.lt_of_succ_lt_succ hcount)]
    simp [Parser.attempts]

end Iteration

end TextGrammar
